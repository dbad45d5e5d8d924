import OpaPyWasm.Policy

/-!
# Data updates are linearizable

`set_data` swaps the policy's snapshot and bumps its version under one lock. An
instance carries the version of the document it has loaded and is reloaded
lazily, after its slot was drawn. The order of the draw, the snapshot, the reload
and the tag write is what makes an evaluation run on exactly one version, no
older than any version settled before its call.

An instance may be left with an older tag than its contents, or with the remains
of a load, when a reload is cut short. Its tag is then below the policy's
version for good, and the next borrow reloads it.
-/

namespace OpaPyWasm.InstancePool

/-- The actions that write an instance's fields. -/
def Action.writes {α : Type} : Action α → Bool
  | .factoryReturns _ => true
  | .refreshReturns _ => true
  | .refreshRaises _ => true
  | .poison => true
  | _ => false

/-- Every other action leaves the fields of all instances. -/
theorem Move.reads_only {α : Type} {config : Config} {shared shared' : Shared}
    {point point' : Point α} {action : Action α}
    (move : Move config shared point action shared' point') (reads : action.writes = false) :
    shared'.instances = shared.instances := by
  cases move with
  | instanceBuilt | refreshed | refreshFailed | poisoned => simp [Action.writes] at reads
  | instanceReturned => unfold Shared.putInstance; split <;> rfl
  | _ => rfl

end OpaPyWasm.InstancePool

namespace OpaPyWasm.Policy

open Machines Threads

variable {Thread Arg Doc : Type}

/-- The data version that an event settles or uses. -/
def Event.version : Event Thread Doc → Nat
  | .committed version => version
  | .setReturned version => version
  | .evalCalled _ => 0
  | .guestRan _ version _ => version

/-- A `set_data` call has returned. -/
def Event.isReturn : Event Thread Doc → Bool
  | .setReturned _ => true
  | _ => false

/-- The thread's latest `evaluate_raw` call is in the history, and no event before
it settled or used a version above the bound. -/
def CallSince (thread : Thread) (history : List (Event Thread Doc)) (bound : Nat) : Prop :=
  ∃ middle earlier, history = middle ++ .evalCalled thread :: earlier ∧
    .evalCalled thread ∉ middle ∧ ∀ event ∈ earlier, event.version ≤ bound

/-- Later events of another kind or another thread do not move the call. -/
theorem CallSince.record {thread : Thread} {history : List (Event Thread Doc)} {bound : Nat}
    {event : Event Thread Doc} (since : CallSince thread history bound)
    (other : event ≠ .evalCalled thread) : CallSince thread (event :: history) bound := by
  obtain ⟨middle, earlier, rfl, latest, bounded⟩ := since
  refine ⟨event :: middle, earlier, rfl, ?_, bounded⟩
  simp only [List.mem_cons, not_or]
  exact ⟨Ne.symm other, latest⟩

/-- A bound on all events is a bound on those before the latest call. -/
theorem CallSince.of_all {thread : Thread} {history : List (Event Thread Doc)} {bound : Nat}
    (called : .evalCalled thread ∈ history)
    (bounded : ∀ event ∈ history, event.version ≤ bound) : CallSince thread history bound := by
  obtain ⟨middle, earlier, rfl, latest⟩ := List.eq_append_cons_of_mem called
  refine ⟨middle, earlier, rfl, latest, fun event before => bounded event ?_⟩
  simp [before]

/-- The document of a version. -/
def Shared.At (shared : Shared Thread Doc) (version : Nat) (data : Option Doc) : Prop :=
  shared.documents[version]? = some data

/-- What an instance has loaded is exactly the document of its tag. -/
def Shared.Exact (shared : Shared Thread Doc) (id : Nat) : Prop :=
  ∃ data, shared.At (shared.pool.instances id).dataVersion data ∧
    shared.contents id = .document data

/-- The laws of the shared state: the snapshot is the document of the latest
version; no event and no tag is ahead of it; an instance is poisoned, behind or
exact; and every guest run so far was exact and fresh. -/
structure Shared.Versioned (shared : Shared Thread Doc) : Prop where
  count : shared.documents.length = shared.dataVersion + 1
  latest : shared.At shared.dataVersion shared.data
  seen : ∀ event ∈ shared.history, event.version ≤ shared.dataVersion
  tagged : ∀ id, (shared.pool.instances id).dataVersion ≤ shared.dataVersion
  loaded : ∀ id, (shared.pool.instances id).poisoned = true ∨
    (shared.pool.instances id).dataVersion < shared.dataVersion ∨ shared.Exact id
  ran : ∀ thread version contents rest,
    (.guestRan thread version contents :: rest) <:+ shared.history →
      (∃ data, shared.At version data ∧ contents = .document data) ∧ CallSince thread rest version

/-- The laws of a thread at its point. -/
def Local.Versioned (thread : Thread) (shared : Shared Thread Doc) (here : Local Arg Doc) : Prop :=
  match here.control, here.pool with
  | .settled version, _ => version ≤ shared.dataVersion
  | .building data version, _ => shared.At version data
  | .ensuring _ data version, _ => shared.At version data
  | .built data version, _ => shared.At version data
  | .borrowing, .comparing id data version =>
    shared.At version data ∧ (shared.pool.instances id).dataVersion ≤ version ∧
      ((shared.pool.instances id).dataVersion = version → shared.contents id = .document data) ∧
      CallSince thread shared.history version
  | .borrowing, .reloading id data version =>
    shared.At version data ∧ (shared.pool.instances id).dataVersion < version ∧
      CallSince thread shared.history version
  | .loaned, .yielded id _ =>
    shared.Exact id ∧ CallSince thread shared.history (shared.pool.instances id).dataVersion
  | _, _ => True

/-- An `evaluate_raw` call is under way and has not reached its exit. -/
def Control.calling : Control Arg Doc → Bool
  | .resolving => true
  | .entering => true
  | .entered => true
  | .borrowing => true
  | .building _ _ => true
  | .ensuring _ _ _ => true
  | .built _ _ => true
  | .loaned => true
  | .guest => true
  | .leaving => true
  | _ => false

/-- A version that has a document is not ahead of the policy. -/
theorem Shared.Versioned.le_of_at {shared : Shared Thread Doc} (versioned : shared.Versioned)
    {version : Nat} {data : Option Doc} (present : shared.At version data) :
    version ≤ shared.dataVersion := by
  obtain ⟨inside, _⟩ := List.getElem?_eq_some_iff.mp present
  have count := versioned.count
  omega

section Moves

variable {config : Config} {encode : Arg → Option Doc} {thread : Thread}
  {shared shared' : Shared Thread Doc} {point : InstancePool.Point (Option Doc)}
  {control : Control Arg Doc} {action : Action Arg Doc} {here' : Local Arg Doc}

/-- Versions only gain documents, and the history gains at most one event; only
the acting thread's call is recorded. -/
theorem Move.grows
    (move : Move config encode thread shared point control action shared' here') :
    shared.dataVersion ≤ shared'.dataVersion ∧
      (∀ version data, shared.At version data → shared'.At version data) ∧
      (shared'.history = shared.history ∨
        ∃ event, shared'.history = event :: shared.history ∧
          ∀ other, event = .evalCalled other → other = thread) := by
  cases move with
  | dataCommitted document =>
    refine ⟨Nat.le_succ _, fun version data present => ?_, Or.inr ⟨_, rfl, by simp⟩⟩
    obtain ⟨inside, _⟩ := List.getElem?_eq_some_iff.mp present
    simpa [Shared.At, List.getElem?_append_left inside] using present
  | dataSet | guestEntered => exact ⟨Nat.le_refl _, fun _ _ => id, Or.inr ⟨_, rfl, by simp⟩⟩
  | evaluateCalled => exact ⟨Nat.le_refl _, fun _ _ => id, Or.inr ⟨_, rfl, by simp [eq_comm]⟩⟩
  | _ => exact ⟨Nat.le_refl _, fun _ _ => id, Or.inl rfl⟩

/-- Tag and contents of a built instance change only in the hands of the acting
thread. -/
theorem Move.writes_own
    (move : Move config encode thread shared point control action shared' here') {id : Nat}
    (built : id < shared.pool.built) (free : point.held ≠ some id) :
    shared'.pool.instances id = shared.pool.instances id ∧
      shared'.contents id = shared.contents id := by
  constructor
  · rcases move.pooled with ⟨same, _⟩ | ⟨taken, acted⟩
    · rw [same]
    · exact (InstancePool.next_move acted).writes_own built free
  · cases move with
    | reloaded loaded data version reading | reloadFailed loaded data version _ _ reading =>
      subst reading
      have other : id ≠ loaded := fun same => free (congrArg some same.symm)
      simp [Function.update_of_ne other]
    | buildReturned => simp [Function.update_of_ne (Nat.ne_of_lt built)]
    | _ => rfl

/-- Another thread's laws survive the step of the acting thread.

Proof: versions and history only grow, and the instance that the other thread holds has the
same tag and contents as before. -/
theorem Local.Versioned.mono {other : Thread} {here : Local Arg Doc}
    (move : Move config encode thread shared point control action shared' here')
    (different : other ≠ thread)
    (kept : ∀ id, here.pool.held = some id →
      shared'.pool.instances id = shared.pool.instances id ∧
        shared'.contents id = shared.contents id)
    (versioned : here.Versioned other shared) : here.Versioned other shared' := by
  obtain ⟨forward, grown, recorded⟩ := move.grows
  have since : ∀ bound, CallSince other shared.history bound →
      CallSince other shared'.history bound := by
    intro bound since
    rcases recorded with same | ⟨event, same, own⟩
    · rwa [same]
    · rw [same]
      exact since.record (fun called => different (own other called))
  unfold Local.Versioned at versioned ⊢
  split at versioned
  · omega
  · exact grown _ _ versioned
  · exact grown _ _ versioned
  · exact grown _ _ versioned
  · rename_i id data version _ pooled
    obtain ⟨tag, contents⟩ := kept id (by rw [pooled]; rfl)
    obtain ⟨present, behind, current, fresh⟩ := versioned
    rw [tag, contents]
    exact ⟨grown _ _ present, behind, current, since _ fresh⟩
  · rename_i id data version _ pooled
    obtain ⟨tag, _⟩ := kept id (by rw [pooled]; rfl)
    obtain ⟨present, behind, fresh⟩ := versioned
    rw [tag]
    exact ⟨grown _ _ present, behind, since _ fresh⟩
  · rename_i id discarded _ pooled
    obtain ⟨tag, contents⟩ := kept id (by rw [pooled]; rfl)
    obtain ⟨⟨data, present, exactly⟩, fresh⟩ := versioned
    unfold Shared.Exact
    rw [tag, contents]
    exact ⟨⟨data, grown _ _ present, exactly⟩, since _ fresh⟩
  · trivial

/-- Nothing is asked of a thread inside the pool's `close` or just out of it. -/
theorem Local.versioned_afterPoolClose (thread : Thread) (shared : Shared Thread Doc)
    (point at_ : InstancePool.Point (Option Doc)) :
    (⟨afterPoolClose point, at_⟩ : Local Arg Doc).Versioned thread shared := by
  cases point <;> cases at_ <;> trivial

/-- The acting thread's laws at its new point. The snapshot is read after the
slot was drawn, so its version bounds the instance's tag and every version
settled before the call; an instance that compares equal is exact, since it is
neither poisoned nor behind.

Proof: one case for each action. What a thread knows begins with the snapshot that it reads,
and only the test of the tag and the reload add to it. -/
theorem Move.keeps_own
    (move : Move config encode thread shared point control action shared' here')
    (versioned : shared.Versioned)
    (own : (⟨control, point⟩ : Local Arg Doc).Versioned thread shared)
    (called : control.calling = true → .evalCalled thread ∈ shared.history)
    (healthy : ∀ id, point.promised = some id → (shared.pool.instances id).poisoned = false) :
    here'.Versioned thread shared' := by
  cases move with
  | dataCommitted document => exact Nat.le_refl _
  | buildStarted creating => exact versioned.latest
  | ensureCalled | ensureSkipped | tickerLocked | tickerSettled | tickerMissing | tickerStarted
  | tickerUnlocked => exact own
  | snapshotRead id refreshing acted =>
    subst refreshing
    cases InstancePool.next_move acted
    refine ⟨versioned.latest, versioned.tagged id, fun current => ?_,
      CallSince.of_all (called rfl) versioned.seen⟩
    have unpoisoned : (shared.pool.instances id).poisoned = false := healthy id rfl
    rcases versioned.loaded id with poisoned | behind | ⟨data, present, exactly⟩
    · simp [unpoisoned] at poisoned
    · exact absurd current (Nat.ne_of_lt behind)
    · have same : some data = some shared.data := by
        rw [← present, show (shared.pool.instances id).dataVersion = shared.dataVersion from current]
        exact versioned.latest
      exact exactly.trans (by rw [Option.some.inj same])
  | reloaded id data version reloading acted =>
    subst reloading
    cases InstancePool.next_move acted
    obtain ⟨present, _, fresh⟩ := own
    simp only [Local.Versioned, afterBorrow, Shared.Exact, Shared.load_contents,
      InstancePool.Shared.setInstance_instances, Function.update_self]
    exact ⟨⟨data, present, rfl⟩, fresh⟩
  | borrowStepped acted =>
    cases InstancePool.next_move acted with
    | foundStale id data version stale =>
      obtain ⟨present, behind, _, fresh⟩ := own
      exact ⟨present, Nat.lt_of_le_of_ne behind stale, fresh⟩
    | foundCurrent id data version current =>
      obtain ⟨present, _, exactly, fresh⟩ := own
      exact ⟨⟨data, current ▸ present, exactly current⟩, current ▸ fresh⟩
    | _ => trivial
  | borrowCalled acted | borrowTimedOut acted | buildFailed _ _ acted | buildReturned _ _ acted
  | bodyLeft acted | closeCalled _ acted =>
    cases InstancePool.next_move acted
    trivial
  | reloadFailed _ _ _ _ _ _ acted =>
    cases InstancePool.next_move acted
    trivial
  | poolCloseStepped => exact Local.versioned_afterPoolClose _ _ _ _
  | _ => trivial

/-- A step that leaves the snapshot, the history and all instances keeps the laws
of the shared state. -/
theorem Shared.Versioned.of_same (versioned : shared.Versioned)
    (dataVersion : shared'.dataVersion = shared.dataVersion) (data : shared'.data = shared.data)
    (documents : shared'.documents = shared.documents) (history : shared'.history = shared.history)
    (instances : shared'.pool.instances = shared.pool.instances)
    (contents : shared'.contents = shared.contents) : shared'.Versioned := by
  obtain ⟨count, latest, seen, tagged, loaded, ran⟩ := versioned
  constructor <;>
    simp only [Shared.At, Shared.Exact, dataVersion, data, documents, history, instances, contents]
  exacts [count, latest, seen, tagged, loaded, ran]

/-- An event that is no guest run and is not ahead of the policy keeps the laws. -/
theorem Shared.Versioned.record (versioned : shared.Versioned) {event : Event Thread Doc}
    (behind : event.version ≤ shared.dataVersion)
    (run : ∀ thread version contents, event = .guestRan thread version contents →
      (∃ data, shared.At version data ∧ contents = .document data) ∧
        CallSince thread shared.history version) : (shared.record event).Versioned := by
  obtain ⟨count, latest, seen, tagged, loaded, ran⟩ := versioned
  refine ⟨count, latest, ?_, tagged, loaded, ?_⟩
  · intro recorded member
    rcases List.mem_cons.mp member with rfl | before
    · exact behind
    · exact seen recorded before
  · intro thread version contents rest suffix
    rcases List.suffix_cons_iff.mp suffix with same | before
    · obtain ⟨rfl, rfl⟩ := List.cons.inj same
      exact run thread version contents rfl
    · exact ran thread version contents rest before

/-- A commit appends the document of the next version; an instance that was
exact stays so and is behind from now on. -/
theorem Shared.Versioned.commit (versioned : shared.Versioned) (document : Option Doc) :
    (shared.commit document).Versioned := by
  obtain ⟨count, latest, seen, tagged, loaded, ran⟩ := versioned
  have grown : ∀ version data, shared.At version data →
      (shared.commit document).At version data := by
    intro version data present
    obtain ⟨inside, _⟩ := List.getElem?_eq_some_iff.mp present
    simpa [Shared.At, List.getElem?_append_left inside] using present
  refine ⟨?_, ?_, ?_, ?_, ?_, ?_⟩
  · simp [count]
  · simp [Shared.At, ← count]
  · intro event member
    rcases List.mem_cons.mp member with rfl | before
    · exact Nat.le_refl _
    · exact (seen event before).trans (Nat.le_succ _)
  · intro id
    exact (tagged id).trans (Nat.le_succ _)
  · intro id
    exact Or.inr (Or.inl (Nat.lt_succ_of_le (tagged id)))
  · intro thread version contents rest suffix
    rcases List.suffix_cons_iff.mp suffix with same | before
    · simp at same
    · obtain ⟨⟨data, present, exactly⟩, fresh⟩ := ran thread version contents rest before
      exact ⟨⟨data, grown version data present, exactly⟩, fresh⟩

/-- A write to one instance keeps the laws when they hold of that instance. -/
theorem Shared.Versioned.write {pool' : InstancePool.Shared} (versioned : shared.Versioned)
    (id : Nat) (fields : InstancePool.Instance) (contents : Contents Doc)
    (written : pool'.instances = Function.update shared.pool.instances id fields)
    (tagged : fields.dataVersion ≤ shared.dataVersion)
    (loaded : fields.poisoned = true ∨ fields.dataVersion < shared.dataVersion ∨
      ∃ data, shared.At fields.dataVersion data ∧ contents = .document data) :
    { shared.load id contents with pool := pool' }.Versioned := by
  obtain ⟨count, latest, seen, taggedAll, loadedAll, ran⟩ := versioned
  refine ⟨count, latest, seen, fun other => ?_, fun other => ?_, ran⟩
  · by_cases same : other = id
    · subst same
      simpa [written] using tagged
    · simpa [written, Function.update_of_ne same] using taggedAll other
  · by_cases same : other = id
    · subst same
      simpa [written, Shared.Exact, Shared.At] using loaded
    · simpa [written, Shared.Exact, Shared.At, Function.update_of_ne same] using loadedAll other

/-- One move keeps the laws of the shared state.

Proof: one case for each action. A commit adds a version, and a load writes one instance with
the document that belongs to its tag. -/
theorem Move.keeps_versioned
    (move : Move config encode thread shared point control action shared' here')
    (versioned : shared.Versioned)
    (own : (⟨control, point⟩ : Local Arg Doc).Versioned thread shared) : shared'.Versioned := by
  cases move with
  | dataCommitted document => exact versioned.commit document
  | dataSet version => exact versioned.record own (by simp)
  | evaluateCalled => exact versioned.record (Nat.zero_le _) (by simp)
  | guestEntered id discarded yielded =>
    subst yielded
    obtain ⟨exactly, fresh⟩ := own
    refine versioned.record (versioned.tagged id) ?_
    rintro _ _ _ ⟨⟩
    exact ⟨exactly, fresh⟩
  | reloaded id data version reloading acted =>
    subst reloading
    cases InstancePool.next_move acted
    obtain ⟨present, _, _⟩ := own
    exact versioned.write id _ _ rfl (versioned.le_of_at present)
      (Or.inr (Or.inr ⟨data, present, rfl⟩))
  | reloadFailed id data version poisons contents reloading acted =>
    subst reloading
    cases InstancePool.next_move acted
    obtain ⟨present, behind, _⟩ := own
    have forward : version ≤ shared.dataVersion := versioned.le_of_at present
    exact versioned.write id _ _ rfl (versioned.tagged id) (Or.inr (Or.inl (by simp; omega)))
  | buildReturned data version acted =>
    cases InstancePool.next_move acted
    exact versioned.write shared.pool.built _ _ rfl (versioned.le_of_at own)
      (Or.inr (Or.inr ⟨data, own, rfl⟩))
  | guestFailed acted =>
    cases InstancePool.next_move acted with
    | poisoned id discarded =>
      have written : ({ shared.load id (shared.contents id) with
          pool := shared.pool.setInstance id
            { shared.pool.instances id with poisoned := true } } : Shared Thread Doc).Versioned :=
        versioned.write id _ (shared.contents id) rfl (versioned.tagged id) (Or.inl rfl)
      simpa [Shared.load] using written
  | borrowCalled acted | borrowStepped acted | borrowTimedOut acted | bodyLeft acted
  | poolCloseStepped acted | snapshotRead _ _ acted | closeCalled _ acted
  | buildFailed _ _ acted =>
    exact versioned.of_same rfl rfl rfl rfl ((InstancePool.next_move acted).reads_only rfl) rfl
  | _ => exact versioned.of_same rfl rfl rfl rfl rfl rfl

/-- A thread inside `evaluate_raw` has recorded its call. -/
theorem Move.keeps_called
    (move : Move config encode thread shared point control action shared' here')
    (called : control.calling = true → .evalCalled thread ∈ shared.history)
    (calling : here'.control.calling = true) : .evalCalled thread ∈ shared'.history := by
  cases move with
  | evaluateCalled => exact List.mem_cons_self
  | guestEntered => exact List.mem_cons_of_mem _ (called rfl)
  | closeCalled | poolCloseStepped =>
    unfold afterPoolClose at calling
    split at calling <;> simp [Control.calling] at calling
  | _ => first | exact called rfl | simp [Control.calling] at calling

/-- One for a `set_data` call that has swapped the snapshot and is returning. -/
def Local.settles (here : Local Arg Doc) : Nat :=
  match here.control with
  | .settled _ => 1
  | _ => 0

/-- A step inside `borrow` leads to no return of `set_data`. -/
theorem settles_afterBorrow (point at_ : InstancePool.Point (Option Doc)) :
    (⟨afterBorrow point, at_⟩ : Local Arg Doc).settles = 0 := by
  cases point <;> rfl

/-- A step inside the pool's `close` leads to no return of `set_data`. -/
theorem settles_afterPoolClose (point at_ : InstancePool.Point (Option Doc)) :
    (⟨afterPoolClose point, at_⟩ : Local Arg Doc).settles = 0 := by
  cases point <;> rfl

/-- Each commit is one `set_data` call that goes on to return. -/
theorem Move.keeps_returns
    (move : Move config encode thread shared point control action shared' here') :
    shared'.dataVersion + shared.history.countP Event.isReturn +
        Local.settles (⟨control, point⟩ : Local Arg Doc) =
      shared.dataVersion + shared'.history.countP Event.isReturn + here'.settles := by
  cases move with
  | dataCommitted =>
    simp only [Local.settles, Shared.commit_dataVersion, Shared.commit_history]
    rw [List.countP_cons_of_neg (by simp [Event.isReturn])]
    omega
  | dataSet =>
    simp only [Local.settles, Shared.record_dataVersion, Shared.record_history]
    rw [List.countP_cons_of_pos (by rfl)]
    omega
  | evaluateCalled | guestEntered => simp [Local.settles, Event.isReturn]
  | borrowCalled | snapshotRead | reloaded | borrowStepped | borrowTimedOut | reloadFailed
  | buildFailed | buildReturned | bodyLeft =>
    rw [settles_afterBorrow]
    rfl
  | closeCalled | poolCloseStepped =>
    rw [settles_afterPoolClose]
    rfl
  | _ => rfl

/-- Only a commit changes the snapshot or the version. -/
theorem Move.commits
    (move : Move config encode thread shared point control action shared' here')
    (changed : shared'.data ≠ shared.data ∨ shared'.dataVersion ≠ shared.dataVersion) :
    here'.control = .settled shared'.dataVersion := by
  cases move with
  | dataCommitted => rfl
  | _ => simp at changed

/-- After its commit a `set_data` call can only return. -/
theorem Move.settled_returns {version : Nat}
    (move : Move config encode thread shared point (.settled version) action shared' here') :
    here'.control = .idle (some .dataSet) := by
  cases move
  rfl

end Moves

section Linearizable

variable [Fintype Thread] [DecidableEq Thread] {config : Config} {encode : Arg → Option Doc}
  {state : State Thread (Shared Thread Doc) (Local Arg Doc)}

/-- The laws of the shared state and of every thread. -/
structure Linear (state : State Thread (Shared Thread Doc) (Local Arg Doc)) : Prop where
  shared : state.shared.Versioned
  own : ∀ thread, (state.threads thread).Versioned thread state.shared
  called : ∀ thread, (state.threads thread).control.calling = true →
    .evalCalled thread ∈ state.shared.history

/-- The laws hold in every reachable state. An instance in one thread's hands is
in no other's, so a step writes no tag and no contents that another thread's laws
speak of.

Proof: all laws hold before the first call. A step keeps the laws of the shared state, of the
acting thread, and of every other thread, whose instance it does not write. -/
theorem linear_reachable (reached : Reachable (policy config encode) state) : Linear state := by
  refine invariant Linear ⟨⟨?_, ?_, ?_, ?_, ?_, ?_⟩, ?_, ?_⟩ ?_ reached
  · rfl
  · rfl
  · simp [policy, machine, start]
  · intro id
    exact Nat.le_refl _
  · intro id
    exact Or.inr (Or.inr ⟨none, rfl, rfl⟩)
  · simp [policy, machine, start]
  · intro thread
    trivial
  · simp [policy, machine, start, Control.calling]
  · intro before label after earlier linear stepped
    have pooled := inner_reachable earlier
    have own : ∀ thread, (after.threads thread).Versioned thread after.shared := by
      refine step_locals (fun thread shared here => Local.Versioned thread shared here) ?_ ?_ stepped
      · intro shared' here' acted
        exact (next_move acted).keeps_own linear.shared (linear.own label.1) (linear.called label.1)
          ((InstancePool.healthy_reachable pooled).2 label.1)
      · intro shared' here' acted other different
        refine (linear.own other).mono (next_move acted) different (fun id held => ?_)
        obtain ⟨built, _, _, alone⟩ := InstancePool.held_sole pooled held
        exact (next_move acted).writes_own built (alone label.1 (Ne.symm different))
    have called : ∀ thread, (after.threads thread).control.calling = true →
        .evalCalled thread ∈ after.shared.history := by
      refine step_locals (fun thread shared here => here.control.calling = true →
        .evalCalled thread ∈ shared.history) ?_ ?_ stepped
      · intro shared' here' acted
        exact (next_move acted).keeps_called (linear.called label.1)
      · intro shared' here' acted other _ calling
        rcases (next_move acted).grows.2.2 with same | ⟨event, same, _⟩
        · rw [same]
          exact linear.called other calling
        · rw [same]
          exact List.mem_cons_of_mem _ (linear.called other calling)
    obtain ⟨shared', here', move, rfl⟩ := step_move stepped
    exact ⟨move.keeps_versioned linear.shared (linear.own label.1), own, called⟩

/-- The version counts the `set_data` calls that have returned and those that
have swapped the snapshot and are about to. -/
theorem version_ledger (reached : Reachable (policy config encode) state) :
    state.shared.dataVersion =
      state.shared.history.countP Event.isReturn + total Local.settles state.threads := by
  refine balanced_reachable
    (fun _ _ _ _ _ _ acted => (next_move acted).keeps_returns) ?_ reached
  simp [Balances, start, total, Local.settles]

/-- Data updates are linearizable. A guest run uses exactly the document of its
version, and that version is no older than any that an event before its call
settled or used: the return of a `set_data`, its commit, or another guest run.
The snapshot is the document of the latest version, and the version is the number
of successful `set_data` calls. Only a commit changes either, and a call that has
committed can only return.

Proof: the laws of the shared state and of every thread hold in every reachable state, and
each part reads one of them off. -/
theorem updates_linearize (reached : Reachable (policy config encode) state) :
    (∀ thread version contents rest,
      (.guestRan thread version contents :: rest) <:+ state.shared.history →
        (∃ data, state.shared.At version data ∧ contents = .document data) ∧
          CallSince thread rest version) ∧
      state.shared.At state.shared.dataVersion state.shared.data ∧
      state.shared.dataVersion =
        state.shared.history.countP Event.isReturn + total Local.settles state.threads ∧
      ∀ label after, (policy config encode).step state label = some after →
        ((after.shared.data ≠ state.shared.data ∨
            after.shared.dataVersion ≠ state.shared.dataVersion) →
          (after.threads label.1).control = .settled after.shared.dataVersion) ∧
        ∀ version, (state.threads label.1).control = .settled version →
          (after.threads label.1).control = .idle (some .dataSet) := by
  obtain ⟨versioned, _, _⟩ := linear_reachable reached
  refine ⟨versioned.ran, versioned.latest, version_ledger reached, fun label after stepped => ?_⟩
  obtain ⟨shared', here', move, rfl⟩ := step_move stepped
  simp only [Function.update_self]
  refine ⟨move.commits, fun version settled => ?_⟩
  rw [settled] at move
  exact move.settled_returns

end Linearizable

/-- A policy with one instance and no timeout. -/
def singleUntimed : Config := ⟨InstancePool.singleSlot, false⟩

/-- The first thread's evaluation builds the instance without data. The second
thread sets the document 7. The first thread's next reload is interrupted, which
leaves the instance unpoisoned with the remains of a load; its third evaluation
borrows that instance and enters the guest. -/
def interruptedReload : List (InstancePool.Caller × Action Nat Nat) :=
  InstancePool.Caller.first.does (.callEvaluate :: List.replicate 18 .go) ++
    InstancePool.Caller.second.does (.callSetData (some 7) :: List.replicate 4 .go) ++
    InstancePool.Caller.first.does (.callEvaluate :: List.replicate 8 .go ++
      .reloadRaises false .torn :: List.replicate 3 .go ++
      .callEvaluate :: List.replicate 10 .go)

/-- The guest runs the third evaluation. -/
def reloadedAgain :
    State InstancePool.Caller (Shared InstancePool.Caller Nat) (Local Nat Nat) :=
  (run (policy singleUntimed some) anything (start singleUntimed) interruptedReload).getD
    (start singleUntimed)

/-- That state is reached. -/
theorem reloadedAgain_reachable : Reachable (policy singleUntimed some) reloadedAgain :=
  executed_reaches (policy singleUntimed some) anything _ (start singleUntimed) (by decide)

/-- The guest runs on the document 7 of version 1, which was set before the call. -/
theorem updates_linearize_reload :
    reloadedAgain.shared.history.head? = some (.guestRan .first 1 (.document (some 7))) ∧
      reloadedAgain.shared.dataVersion = 1 ∧
      CallSince .first reloadedAgain.shared.history.tail 1 :=
  ⟨by decide, by decide,
    ((updates_linearize reloadedAgain_reachable).1 .first 1 (.document (some 7))
      reloadedAgain.shared.history.tail (by decide)).2⟩

end OpaPyWasm.Policy
