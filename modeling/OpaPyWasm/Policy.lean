import OpaPyWasm.InstanceOwnership

/-!
# The policy around the pool

`OpaWasmPolicy` keeps one data snapshot with its version, the lifecycle flag
with the number of active evaluations, the epoch ticker, and the instance pool.
Threads call `set_data`, `evaluate_raw` and `close` in any order.

A critical section of the data lock or of the lifecycle lock is one action. The
section of `ensure_running` is split at each of its steps, since `close` sets
the stop event outside the ticker's lock. Inside `borrow` and the pool's `close`
a policy step is one step of the pool, whose factory and callbacks are filled in
here: the factory reads the snapshot, builds an instance and calls
`ensure_running`, and the refresh callback is `reload_data`.

The environment decides what it may: whether an entrypoint or an input is
rejected, how a load or a guest call ends, and what a failed load leaves behind.
Documents are kept apart from their encoding: `encode` is the JSON text of an
argument, or nothing where `_serialise_data` raises.
-/

namespace OpaPyWasm.Policy

open Machines Threads

/-- What an instance has loaded: one whole document, where `none` is no data, or
the remains of a load that was cut short. -/
inductive Contents (Doc : Type) where
  | document (data : Option Doc)
  | torn
deriving DecidableEq

/-- How a call into the policy ended. -/
inductive Outcome where
  | dataSet
  | dataRaised
  | entrypointRaised
  | evaluateEnded
  | closeReturned
deriving DecidableEq

/-- The critical section of `ensure_running`. -/
inductive Ensure where
  | acquiring
  | testing
  | starting
  | releasing
deriving DecidableEq

/-- The program point of a thread in the policy's own code, with its local
variables. While it is `borrowing` or `poolClosing` its point in the pool says
where it is. -/
inductive Control (Arg Doc : Type) where
  | idle (last : Option Outcome)
  | checking (argument : Option Arg)
  | serialising (argument : Option Arg)
  | committing (document : Option Doc)
  | settled (version : Nat)
  | resolving
  | entering
  | entered
  | borrowing
  | building (data : Option Doc) (version : Nat)
  | ensuring (point : Ensure) (data : Option Doc) (version : Nat)
  | built (data : Option Doc) (version : Nat)
  | loaned
  | guest
  | leaving
  | exiting
  | stopping (byClose : Bool)
  | clearing (byClose : Bool)
  | poolClosing
  | marking
deriving DecidableEq

/-- Where a thread is in the policy and in the pool. -/
structure Local (Arg Doc : Type) where
  control : Control Arg Doc
  pool : InstancePool.Point (Option Doc)
deriving DecidableEq

/-- What the history records. A commit is the swap of the snapshot inside
`set_data`; a guest run is recorded when an evaluation enters the guest, with
the tag and the contents of its instance at that moment. -/
inductive Event (Thread Doc : Type) where
  | committed (version : Nat)
  | setReturned (version : Nat)
  | evalCalled (thread : Thread)
  | guestRan (thread : Thread) (version : Nat) (contents : Contents Doc)
deriving DecidableEq

/-- The epoch ticker. `started` is a history variable: how many threads were
started. -/
structure Ticker where
  thread : Option Nat
  stop : Bool
  lock : Bool
  started : Nat
deriving DecidableEq

/-- What all threads share. The documents committed so far, the contents of each
instance, the history with its latest event first, and whether some `close` call
has returned are history variables. -/
structure Shared (Thread Doc : Type) where
  pool : InstancePool.Shared
  data : Option Doc
  dataVersion : Nat
  closed : Bool
  activeEvals : Nat
  ticker : Ticker
  contents : Nat → Contents Doc
  documents : List (Option Doc)
  history : List (Event Thread Doc)
  closeReturned : Bool

/-- The configuration that the machine reads. -/
structure Config where
  pool : InstancePool.Config
  evalTimeout : Bool

/-- The thread goes on, a caller calls, or the environment decides. -/
inductive Action (Arg Doc : Type) where
  | callSetData (argument : Option Arg)
  | callEvaluate
  | callClose
  | go
  | timeout
  | reject
  | factoryRaises
  | reloadRaises (poisons : Bool) (contents : Contents Doc)
  | guestFails
  | guestInterrupted
deriving DecidableEq

variable {Thread Arg Doc : Type}

/-- `_serialise_data`: `None` stays `None`. -/
def serialiseData (encode : Arg → Option Doc) : Option Arg → Option (Option Doc)
  | none => some none
  | some argument => (encode argument).map some

/-- The test inside `ensure_running`. -/
def Ticker.settled (ticker : Ticker) : Bool := ticker.thread.isSome || ticker.stop

/-- Create the ticker thread and start it. -/
@[simps] def Ticker.start (ticker : Ticker) : Ticker :=
  { ticker with thread := some ticker.started, started := ticker.started + 1 }

/-- `ensure_running` with nobody else about. -/
def Ticker.ensureRunning (ticker : Ticker) : Ticker :=
  if ticker.settled then ticker else ticker.start

/-- The snapshot swap of `set_data`. -/
@[simps] def Shared.commit (shared : Shared Thread Doc) (document : Option Doc) :
    Shared Thread Doc :=
  { shared with
    data := document
    dataVersion := shared.dataVersion + 1
    documents := shared.documents ++ [document]
    history := .committed (shared.dataVersion + 1) :: shared.history }

/-- Add an event to the history. -/
@[simps] def Shared.record (shared : Shared Thread Doc) (event : Event Thread Doc) :
    Shared Thread Doc :=
  { shared with history := event :: shared.history }

/-- A load into one instance leaves these contents. -/
@[simps] def Shared.load (shared : Shared Thread Doc) (id : Nat) (contents : Contents Doc) :
    Shared Thread Doc :=
  { shared with contents := Function.update shared.contents id contents }

/-- Replace the ticker. -/
@[simps] def Shared.setTicker (shared : Shared Thread Doc) (ticker : Ticker) :
    Shared Thread Doc :=
  { shared with ticker := ticker }

/-- Where a thread is in `evaluate_raw` after a step inside `borrow`. -/
def afterBorrow : InstancePool.Point (Option Doc) → Control Arg Doc
  | .outside _ => .exiting
  | .yielded _ _ => .loaned
  | _ => .borrowing

/-- Where a thread is in `close` after a step inside the pool's `close`. -/
def afterPoolClose : InstancePool.Point (Option Doc) → Control Arg Doc
  | .outside _ => .marking
  | _ => .poolClosing

/-- One step of the pool, taken by a thread of the policy. -/
def inPool (config : Config) (shared : Shared Thread Doc) (point : InstancePool.Point (Option Doc))
    (action : InstancePool.Action (Option Doc))
    (follow : InstancePool.Point (Option Doc) → Control Arg Doc) :
    Option (Shared Thread Doc × Local Arg Doc) :=
  (InstancePool.next config.pool shared.pool point action).map (fun reached =>
    ({ shared with pool := reached.1 }, ⟨follow reached.2, reached.2⟩))

/-- A step inside `borrow`: the factory and the snapshot callback read the
policy's snapshot, and the refresh callback loads it. -/
def borrowStep (config : Config) (shared : Shared Thread Doc) :
    InstancePool.Point (Option Doc) → Option (Shared Thread Doc × Local Arg Doc)
  | .creating => some (shared, ⟨.building shared.data shared.dataVersion, .creating⟩)
  | .refreshing id =>
    inPool config shared (.refreshing id) (.snapshotReturns shared.data shared.dataVersion)
      afterBorrow
  | .reloading id data version =>
    inPool config (shared.load id (.document data)) (.reloading id data version)
      (.refreshReturns version) afterBorrow
  | point => inPool config shared point .go afterBorrow

/-- One atomic action of a thread at its point in the policy. -/
def next (config : Config) (encode : Arg → Option Doc) (thread : Thread)
    (shared : Shared Thread Doc) (here : Local Arg Doc) :
    Action Arg Doc → Option (Shared Thread Doc × Local Arg Doc) := fun action =>
  match here.control, action with
  -- set_data
  | .idle _, .callSetData argument => some (shared, ⟨.checking argument, here.pool⟩)
  | .checking argument, .go =>
    if shared.closed then some (shared, ⟨.idle (some .dataRaised), here.pool⟩)
    else some (shared, ⟨.serialising argument, here.pool⟩)
  | .serialising argument, .go =>
    match serialiseData encode argument with
    | none => some (shared, ⟨.idle (some .dataRaised), here.pool⟩)
    | some document => some (shared, ⟨.committing document, here.pool⟩)
  | .committing document, .go =>
    some (shared.commit document, ⟨.settled (shared.dataVersion + 1), here.pool⟩)
  | .settled version, .go =>
    some (shared.record (.setReturned version), ⟨.idle (some .dataSet), here.pool⟩)
  -- evaluate_raw
  | .idle _, .callEvaluate => some (shared.record (.evalCalled thread), ⟨.resolving, here.pool⟩)
  | .resolving, .reject => some (shared, ⟨.idle (some .entrypointRaised), here.pool⟩)
  | .resolving, .go => some (shared, ⟨.entering, here.pool⟩)
  | .entering, .go =>
    some ({ shared with activeEvals := shared.activeEvals + 1 }, ⟨.entered, here.pool⟩)
  | .entered, .go => inPool config shared here.pool .callBorrow afterBorrow
  | .borrowing, .go => borrowStep config shared here.pool
  | .borrowing, .timeout => inPool config shared here.pool .timeout afterBorrow
  | .borrowing, .reloadRaises poisons contents =>
    match here.pool with
    | .reloading id _ _ =>
      inPool config (shared.load id contents) here.pool (.refreshRaises poisons) afterBorrow
    | _ => none
  -- _build_instance
  | .building data version, .go =>
    if config.evalTimeout then some (shared, ⟨.ensuring .acquiring data version, here.pool⟩)
    else some (shared, ⟨.built data version, here.pool⟩)
  | .building _ _, .factoryRaises => inPool config shared here.pool .factoryRaises afterBorrow
  | .ensuring .acquiring data version, .go =>
    if shared.ticker.lock then none
    else some (shared.setTicker { shared.ticker with lock := true },
      ⟨.ensuring .testing data version, here.pool⟩)
  | .ensuring .testing data version, .go =>
    if shared.ticker.settled then some (shared, ⟨.ensuring .releasing data version, here.pool⟩)
    else some (shared, ⟨.ensuring .starting data version, here.pool⟩)
  | .ensuring .starting data version, .go =>
    some (shared.setTicker shared.ticker.start, ⟨.ensuring .releasing data version, here.pool⟩)
  | .ensuring .releasing data version, .go =>
    some (shared.setTicker { shared.ticker with lock := false },
      ⟨.built data version, here.pool⟩)
  | .built data version, .go =>
    inPool config (shared.load shared.pool.built (.document data)) here.pool
      (.factoryReturns version) afterBorrow
  -- instance.evaluate
  | .loaned, .reject => some (shared, ⟨.leaving, here.pool⟩)
  | .loaned, .go =>
    match here.pool with
    | .yielded id _ =>
      some (shared.record (.guestRan thread (shared.pool.instances id).dataVersion
        (shared.contents id)), ⟨.guest, here.pool⟩)
    | _ => none
  | .guest, .go => some (shared, ⟨.leaving, here.pool⟩)
  | .guest, .guestFails => inPool config shared here.pool .poison (fun _ => .leaving)
  | .guest, .guestInterrupted => some (shared, ⟨.leaving, here.pool⟩)
  | .leaving, .go => inPool config shared here.pool .exit afterBorrow
  -- _exit_eval
  | .exiting, .go =>
    if shared.closed && (shared.activeEvals - 1 == 0) then
      some ({ shared with activeEvals := shared.activeEvals - 1 }, ⟨.stopping false, here.pool⟩)
    else
      some ({ shared with activeEvals := shared.activeEvals - 1 },
        ⟨.idle (some .evaluateEnded), here.pool⟩)
  -- close
  | .idle _, .callClose => inPool config shared here.pool .callClose afterPoolClose
  | .poolClosing, .go => inPool config shared here.pool .go afterPoolClose
  | .marking, .go =>
    if shared.activeEvals == 0 then
      some ({ shared with closed := true }, ⟨.stopping true, here.pool⟩)
    else
      some ({ shared with closed := true, closeReturned := true },
        ⟨.idle (some .closeReturned), here.pool⟩)
  -- EpochTicker.close
  | .stopping byClose, .go =>
    some (shared.setTicker { shared.ticker with stop := true }, ⟨.clearing byClose, here.pool⟩)
  | .clearing byClose, .go =>
    if shared.ticker.lock then none
    else some ({ shared.setTicker { shared.ticker with thread := none } with
        closeReturned := shared.closeReturned || byClose },
      ⟨.idle (some (if byClose then .closeReturned else .evaluateEnded)), here.pool⟩)
  | _, _ => none

/-- What one atomic action can do. A step inside the pool carries the step the
pool takes. -/
inductive Move (config : Config) (encode : Arg → Option Doc) (thread : Thread)
    (shared : Shared Thread Doc) (point : InstancePool.Point (Option Doc)) :
    Control Arg Doc → Action Arg Doc → Shared Thread Doc → Local Arg Doc → Prop
  | dataCalled (last : Option Outcome) (argument : Option Arg) :
      Move config encode thread shared point (.idle last) (.callSetData argument) shared
        ⟨.checking argument, point⟩
  | dataClosed (argument : Option Arg) (closed : shared.closed = true) :
      Move config encode thread shared point (.checking argument) .go shared
        ⟨.idle (some .dataRaised), point⟩
  | dataOpen (argument : Option Arg) (isOpen : shared.closed = false) :
      Move config encode thread shared point (.checking argument) .go shared
        ⟨.serialising argument, point⟩
  | dataRefused (argument : Option Arg) (refused : serialiseData encode argument = none) :
      Move config encode thread shared point (.serialising argument) .go shared
        ⟨.idle (some .dataRaised), point⟩
  | dataSerialised (argument : Option Arg) (document : Option Doc)
      (serialised : serialiseData encode argument = some document) :
      Move config encode thread shared point (.serialising argument) .go shared
        ⟨.committing document, point⟩
  | dataCommitted (document : Option Doc) :
      Move config encode thread shared point (.committing document) .go (shared.commit document)
        ⟨.settled (shared.dataVersion + 1), point⟩
  | dataSet (version : Nat) :
      Move config encode thread shared point (.settled version) .go
        (shared.record (.setReturned version)) ⟨.idle (some .dataSet), point⟩
  | evaluateCalled (last : Option Outcome) :
      Move config encode thread shared point (.idle last) .callEvaluate
        (shared.record (.evalCalled thread)) ⟨.resolving, point⟩
  | entrypointRefused :
      Move config encode thread shared point .resolving .reject shared
        ⟨.idle (some .entrypointRaised), point⟩
  | entrypointResolved :
      Move config encode thread shared point .resolving .go shared ⟨.entering, point⟩
  | evalEntered :
      Move config encode thread shared point .entering .go
        { shared with activeEvals := shared.activeEvals + 1 } ⟨.entered, point⟩
  | borrowCalled {pool' : InstancePool.Shared} {point' : InstancePool.Point (Option Doc)}
      (acted : InstancePool.next config.pool shared.pool point .callBorrow = some (pool', point')) :
      Move config encode thread shared point .entered .go { shared with pool := pool' }
        ⟨afterBorrow point', point'⟩
  | buildStarted (creating : point = .creating) :
      Move config encode thread shared point .borrowing .go shared
        ⟨.building shared.data shared.dataVersion, point⟩
  | snapshotRead {pool' : InstancePool.Shared} {point' : InstancePool.Point (Option Doc)}
      (id : Nat) (refreshing : point = .refreshing id)
      (acted : InstancePool.next config.pool shared.pool point
        (.snapshotReturns shared.data shared.dataVersion) = some (pool', point')) :
      Move config encode thread shared point .borrowing .go { shared with pool := pool' }
        ⟨afterBorrow point', point'⟩
  | reloaded {pool' : InstancePool.Shared} {point' : InstancePool.Point (Option Doc)}
      (id : Nat) (data : Option Doc) (version : Nat) (reloading : point = .reloading id data version)
      (acted : InstancePool.next config.pool shared.pool point (.refreshReturns version) =
        some (pool', point')) :
      Move config encode thread shared point .borrowing .go
        { shared.load id (.document data) with pool := pool' } ⟨afterBorrow point', point'⟩
  | borrowStepped {pool' : InstancePool.Shared} {point' : InstancePool.Point (Option Doc)}
      (acted : InstancePool.next config.pool shared.pool point .go = some (pool', point')) :
      Move config encode thread shared point .borrowing .go { shared with pool := pool' }
        ⟨afterBorrow point', point'⟩
  | borrowTimedOut {pool' : InstancePool.Shared} {point' : InstancePool.Point (Option Doc)}
      (acted : InstancePool.next config.pool shared.pool point .timeout = some (pool', point')) :
      Move config encode thread shared point .borrowing .timeout { shared with pool := pool' }
        ⟨afterBorrow point', point'⟩
  | reloadFailed {pool' : InstancePool.Shared} {point' : InstancePool.Point (Option Doc)}
      (id : Nat) (data : Option Doc) (version : Nat) (poisons : Bool) (contents : Contents Doc)
      (reloading : point = .reloading id data version)
      (acted : InstancePool.next config.pool shared.pool point (.refreshRaises poisons) =
        some (pool', point')) :
      Move config encode thread shared point .borrowing (.reloadRaises poisons contents)
        { shared.load id contents with pool := pool' } ⟨afterBorrow point', point'⟩
  | buildFailed {pool' : InstancePool.Shared} {point' : InstancePool.Point (Option Doc)}
      (data : Option Doc) (version : Nat)
      (acted : InstancePool.next config.pool shared.pool point .factoryRaises =
        some (pool', point')) :
      Move config encode thread shared point (.building data version) .factoryRaises
        { shared with pool := pool' } ⟨afterBorrow point', point'⟩
  | ensureCalled (data : Option Doc) (version : Nat) (timed : config.evalTimeout = true) :
      Move config encode thread shared point (.building data version) .go shared
        ⟨.ensuring .acquiring data version, point⟩
  | ensureSkipped (data : Option Doc) (version : Nat) (untimed : config.evalTimeout = false) :
      Move config encode thread shared point (.building data version) .go shared
        ⟨.built data version, point⟩
  | tickerLocked (data : Option Doc) (version : Nat) (free : shared.ticker.lock = false) :
      Move config encode thread shared point (.ensuring .acquiring data version) .go
        (shared.setTicker { shared.ticker with lock := true })
        ⟨.ensuring .testing data version, point⟩
  | tickerSettled (data : Option Doc) (version : Nat) (settled : shared.ticker.settled = true) :
      Move config encode thread shared point (.ensuring .testing data version) .go shared
        ⟨.ensuring .releasing data version, point⟩
  | tickerMissing (data : Option Doc) (version : Nat) (missing : shared.ticker.settled = false) :
      Move config encode thread shared point (.ensuring .testing data version) .go shared
        ⟨.ensuring .starting data version, point⟩
  | tickerStarted (data : Option Doc) (version : Nat) :
      Move config encode thread shared point (.ensuring .starting data version) .go
        (shared.setTicker shared.ticker.start) ⟨.ensuring .releasing data version, point⟩
  | tickerUnlocked (data : Option Doc) (version : Nat) :
      Move config encode thread shared point (.ensuring .releasing data version) .go
        (shared.setTicker { shared.ticker with lock := false }) ⟨.built data version, point⟩
  | buildReturned {pool' : InstancePool.Shared} {point' : InstancePool.Point (Option Doc)}
      (data : Option Doc) (version : Nat)
      (acted : InstancePool.next config.pool shared.pool point (.factoryReturns version) =
        some (pool', point')) :
      Move config encode thread shared point (.built data version) .go
        { shared.load shared.pool.built (.document data) with pool := pool' }
        ⟨afterBorrow point', point'⟩
  | inputRefused :
      Move config encode thread shared point .loaned .reject shared ⟨.leaving, point⟩
  | guestEntered (id : Nat) (discarded : Bool) (yielded : point = .yielded id discarded) :
      Move config encode thread shared point .loaned .go
        (shared.record (.guestRan thread (shared.pool.instances id).dataVersion
          (shared.contents id))) ⟨.guest, point⟩
  | guestReturned :
      Move config encode thread shared point .guest .go shared ⟨.leaving, point⟩
  | guestFailed {pool' : InstancePool.Shared} {point' : InstancePool.Point (Option Doc)}
      (acted : InstancePool.next config.pool shared.pool point .poison = some (pool', point')) :
      Move config encode thread shared point .guest .guestFails { shared with pool := pool' }
        ⟨.leaving, point'⟩
  | guestInterrupted :
      Move config encode thread shared point .guest .guestInterrupted shared ⟨.leaving, point⟩
  | bodyLeft {pool' : InstancePool.Shared} {point' : InstancePool.Point (Option Doc)}
      (acted : InstancePool.next config.pool shared.pool point .exit = some (pool', point')) :
      Move config encode thread shared point .leaving .go { shared with pool := pool' }
        ⟨afterBorrow point', point'⟩
  | exitedLast (closed : shared.closed = true) (last : shared.activeEvals - 1 = 0) :
      Move config encode thread shared point .exiting .go
        { shared with activeEvals := shared.activeEvals - 1 } ⟨.stopping false, point⟩
  | exited (more : shared.closed = false ∨ shared.activeEvals - 1 ≠ 0) :
      Move config encode thread shared point .exiting .go
        { shared with activeEvals := shared.activeEvals - 1 }
        ⟨.idle (some .evaluateEnded), point⟩
  | closeCalled {pool' : InstancePool.Shared} {point' : InstancePool.Point (Option Doc)}
      (last : Option Outcome)
      (acted : InstancePool.next config.pool shared.pool point .callClose = some (pool', point')) :
      Move config encode thread shared point (.idle last) .callClose { shared with pool := pool' }
        ⟨afterPoolClose point', point'⟩
  | poolCloseStepped {pool' : InstancePool.Shared} {point' : InstancePool.Point (Option Doc)}
      (acted : InstancePool.next config.pool shared.pool point .go = some (pool', point')) :
      Move config encode thread shared point .poolClosing .go { shared with pool := pool' }
        ⟨afterPoolClose point', point'⟩
  | closedIdle (quiet : shared.activeEvals = 0) :
      Move config encode thread shared point .marking .go { shared with closed := true }
        ⟨.stopping true, point⟩
  | closedBusy (busy : shared.activeEvals ≠ 0) :
      Move config encode thread shared point .marking .go
        { shared with closed := true, closeReturned := true }
        ⟨.idle (some .closeReturned), point⟩
  | stopSet (byClose : Bool) :
      Move config encode thread shared point (.stopping byClose) .go
        (shared.setTicker { shared.ticker with stop := true }) ⟨.clearing byClose, point⟩
  | threadCleared (byClose : Bool) (free : shared.ticker.lock = false) :
      Move config encode thread shared point (.clearing byClose) .go
        { shared.setTicker { shared.ticker with thread := none } with
          closeReturned := shared.closeReturned || byClose }
        ⟨.idle (some (if byClose then .closeReturned else .evaluateEnded)), point⟩

/-- A step inside the pool is the pool's own step. -/
theorem inPool_some {config : Config} {shared shared' : Shared Thread Doc}
    {point : InstancePool.Point (Option Doc)} {action : InstancePool.Action (Option Doc)}
    {follow : InstancePool.Point (Option Doc) → Control Arg Doc} {here' : Local Arg Doc}
    (acted : inPool config shared point action follow = some (shared', here')) :
    ∃ pool' point', InstancePool.next config.pool shared.pool point action =
      some (pool', point') ∧ shared' = { shared with pool := pool' } ∧
      here' = ⟨follow point', point'⟩ := by
  obtain ⟨⟨pool', point'⟩, stepped, same⟩ := Option.map_eq_some_iff.mp acted
  simp only [Prod.mk.injEq] at same
  exact ⟨pool', point', stepped, same.1.symm, same.2.symm⟩

/-- A step inside `borrow` is one of the four moves there. -/
theorem borrowStep_move {config : Config} {encode : Arg → Option Doc} {thread : Thread}
    {shared shared' : Shared Thread Doc} {point : InstancePool.Point (Option Doc)}
    {here' : Local Arg Doc}
    (acted : borrowStep config shared point = some (shared', here')) :
    Move config encode thread shared point .borrowing .go shared' here' := by
  unfold borrowStep at acted
  split at acted
  · obtain ⟨rfl, rfl⟩ := Prod.mk.inj (Option.some.inj acted)
    exact .buildStarted rfl
  · obtain ⟨pool', point', stepped, rfl, rfl⟩ := inPool_some acted
    exact .snapshotRead _ rfl stepped
  · obtain ⟨pool', point', stepped, rfl, rfl⟩ := inPool_some acted
    exact .reloaded _ _ _ rfl stepped
  · obtain ⟨pool', point', stepped, rfl, rfl⟩ := inPool_some acted
    exact .borrowStepped stepped

/-- Every action of a thread is one of these moves. -/
theorem next_move {config : Config} {encode : Arg → Option Doc} {thread : Thread}
    {shared shared' : Shared Thread Doc} {here here' : Local Arg Doc} {action : Action Arg Doc}
    (acted : next config encode thread shared here action = some (shared', here')) :
    Move config encode thread shared here.pool here.control action shared' here' := by
  obtain ⟨control, point⟩ := here
  unfold next at acted
  simp only at acted ⊢
  split at acted
  case h_11 => exact borrowStep_move acted
  all_goals (try split at acted)
  all_goals first
    | exact absurd acted (Option.some_ne_none _).symm
    | (obtain ⟨pool', point', stepped, rfl, rfl⟩ := inPool_some acted
       first
         | exact .reloadFailed _ _ _ _ _ rfl stepped
         | (constructor; exact stepped))
    | (obtain ⟨rfl, rfl⟩ := Prod.mk.inj (Option.some.inj acted)
       first
         | exact .guestEntered _ _ rfl
         | exact .exited (by cases closed : shared.closed <;> simp_all)
         | (constructor <;> simp_all))

/-- A move of the policy leaves the pool or is one action of the pool. -/
theorem Move.pooled {config : Config} {encode : Arg → Option Doc} {thread : Thread}
    {shared shared' : Shared Thread Doc} {point : InstancePool.Point (Option Doc)} {control : Control Arg Doc}
    {action : Action Arg Doc} {here' : Local Arg Doc}
    (move : Move config encode thread shared point control action shared' here') :
    (shared'.pool = shared.pool ∧ here'.pool = point) ∨
      ∃ taken, InstancePool.next config.pool shared.pool point taken =
        some (shared'.pool, here'.pool) := by
  cases move with
  | borrowCalled acted | borrowStepped acted | borrowTimedOut acted | guestFailed acted
  | bodyLeft acted | poolCloseStepped acted => exact Or.inr ⟨_, acted⟩
  | snapshotRead _ _ acted | closeCalled _ acted => exact Or.inr ⟨_, acted⟩
  | buildFailed _ _ acted | buildReturned _ _ acted => exact Or.inr ⟨_, acted⟩
  | reloaded _ _ _ _ acted => exact Or.inr ⟨_, acted⟩
  | reloadFailed _ _ _ _ _ _ acted => exact Or.inr ⟨_, acted⟩
  | _ => exact Or.inl ⟨rfl, rfl⟩

/-- A ticker whose thread was never started. -/
def Ticker.fresh : Ticker := ⟨none, false, false, 0⟩

/-- The constructor's probe instance has called `ensure_running` where a timeout
is configured. -/
def Ticker.probed (config : Config) : Ticker :=
  if config.evalTimeout then Ticker.fresh.ensureRunning else Ticker.fresh

/-- A constructed policy: version 0 is no data, and nobody has called it yet. -/
def start (config : Config) : State Thread (Shared Thread Doc) (Local Arg Doc) where
  shared :=
    { pool := InstancePool.opened config.pool
      data := none
      dataVersion := 0
      closed := false
      activeEvals := 0
      ticker := Ticker.probed config
      contents := fun _ => .document none
      documents := [none]
      history := []
      closeReturned := false }
  threads := fun _ => ⟨.idle none, .outside none⟩

section Machine

variable [DecidableEq Thread] {config : Config} {encode : Arg → Option Doc}
  {state before after : State Thread (Shared Thread Doc) (Local Arg Doc)}
  {label : Thread × Action Arg Doc}

/-- The policy called by any number of threads at every interleaving. -/
def policy (config : Config) (encode : Arg → Option Doc) :
    Machine (State Thread (Shared Thread Doc) (Local Arg Doc)) (Thread × Action Arg Doc) :=
  Threads.machine (next config encode) (start config)

/-- A step of the policy is one move of the labelled thread. -/
theorem step_move (stepped : (policy config encode).step before label = some after) :
    ∃ shared' here',
      Move config encode label.1 before.shared (before.threads label.1).pool
        (before.threads label.1).control label.2 shared' here' ∧
      after = ⟨shared', Function.update before.threads label.1 here'⟩ := by
  obtain ⟨shared', here', acted, same⟩ := step_cases stepped
  exact ⟨shared', here', next_move acted, same⟩

/-- The pool inside a policy. -/
abbrev inner (state : State Thread (Shared Thread Doc) (Local Arg Doc)) :
    State Thread InstancePool.Shared (InstancePool.Point (Option Doc)) :=
  state.project Shared.pool Local.pool

/-- Every run of the policy is a run of its pool, so the laws of the pool hold in
every reachable state of the policy. -/
theorem inner_reachable (reached : Reachable (policy config encode) state) :
    Reachable (InstancePool.pool config.pool) (inner state) := by
  have projects : Projects (policy config encode) (InstancePool.pool config.pool)
      (inner : State Thread (Shared Thread Doc) (Local Arg Doc) → _) :=
    projects_of_actions Shared.pool Local.pool rfl
      (fun _ _ _ _ _ _ acted => (next_move acted).pooled)
  exact projects.reachable reached

end Machine

end OpaPyWasm.Policy
