import OpaPyWasm.NativeLifecycle

/-!
# A constructor that goes alone

The process of the lifecycle lock runs the retry loop of a constructor action by action,
and leaves open how each native call ends. The constructor of `RuntimeConstruction` runs
the loop as one program over native calls that are given.

A thread that goes alone, and whose native calls end as the given ones do, ends like that
program: with the same runtime's store or the same error, and with the same stores open.
The native calls of an attempt run one after another on its store, so that each of them
ends as the part of the attempt up to it does. The registration of the host functions is
part of the given `instantiate`, so it returns here and the call behind it fails.
-/

namespace OpaPyWasm.NativeLifecycle

open Exceptions Effects GuestCalls WasmtimeRuntime RuntimeConstruction Machines Threads

section Replies

variable {σ : Type} (native : Nat → Native σ) (guest : Guest σ)

/-- An attempt up to one of its native calls. -/
def Attempt.upTo (attempt : Attempt) : NativeCall → Py σ PUnit
  | .arming => call .instantiation .setEpochDeadline (guest.setEpochDeadline noDeadlineTicks)
  | .allocating => do
    call .instantiation .setEpochDeadline (guest.setEpochDeadline noDeadlineTicks)
    call .instantiation .newMemory
      ((native attempt.initialPages).newMemory attempt.initialPages attempt.maxMemoryPages)
  | .limiting | .registering => do
    call .instantiation .setEpochDeadline (guest.setEpochDeadline noDeadlineTicks)
    call .instantiation .newMemory
      ((native attempt.initialPages).newMemory attempt.initialPages attempt.maxMemoryPages)
    limitMemory (native attempt.initialPages) attempt.maxMemoryPages
  | .instantiating =>
    WasmtimeRuntime.attempt (native attempt.initialPages) guest attempt.maxMemoryPages
      attempt.initialPages

/-- How the store of an attempt opens. -/
def Attempt.opens (attempt : Attempt) : Except Raised PUnit :=
  (fun _ => ⟨⟩) <$> (native attempt.initialPages).newStore

/-- How a native call of an attempt ends, in a store of its own. -/
def Attempt.ends (attempt : Attempt) (call : NativeCall) : Except Raised PUnit := do
  let store ← (native attempt.initialPages).newStore
  outcome (attempt.upTo native guest call) (created store)

/-- What a thread does next at its point, with native calls that end as the given ones do.
A thread that rests begins nothing. -/
def reply : Point → Option Action
  | .idle _ => none
  | .opening _ attempt => some (.ends (attempt.opens native))
  | .attempting call _ attempt => some (.ends (attempt.ends native guest call))
  | _ => some .go

/-- A thread of the process goes on alone. -/
def Lone {Thread : Type} (thread : Thread) : Shared × Point → Shared × Point → Prop :=
  Alone (fun _ => next) thread (reply native guest)

end Replies

section Attempts

variable {σ : Type} {native : Nat → Native σ} {guest : Guest σ}

/-- The last native call of an attempt ends as the attempt does. -/
theorem Attempt.ends_last (attempt : Attempt) :
    attempt.ends native guest .instantiating =
      attempted native guest attempt.maxMemoryPages attempt.initialPages := by
  unfold Attempt.ends attempted
  cases (native attempt.initialPages).newStore <;> rfl

/-- A native call that raises is where its attempt raises: the attempt begins with all that
comes up to this call. -/
theorem Attempt.raised (attempt : Attempt) {call : NativeCall} {error : Raised}
    (failed : attempt.ends native guest call = .error error) :
    attempted native guest attempt.maxMemoryPages attempt.initialPages = .error error := by
  have begins : ∃ rest : PUnit → Py σ PUnit, WasmtimeRuntime.attempt (native attempt.initialPages)
      guest attempt.maxMemoryPages attempt.initialPages =
        attempt.upTo native guest call >>= rest := by
    cases call with
    | arming => exact ⟨_, rfl⟩
    | allocating => exact ⟨_, (bind_assoc _ _ _).symm⟩
    | limiting | registering =>
      refine ⟨fun _ => call .instantiation .instantiate (native attempt.initialPages).instantiate, ?_⟩
      simp only [Attempt.upTo, WasmtimeRuntime.attempt, bind_assoc]
    | instantiating => exact ⟨pure, (bind_pure _).symm⟩
  obtain ⟨rest, split⟩ := begins
  unfold Attempt.ends at failed
  unfold attempted
  cases opened : (native attempt.initialPages).newStore with
  | error raised =>
    rw [opened] at failed
    exact failed
  | ok store =>
    rw [opened] at failed
    dsimp only
    rw [split]
    exact outcome_bind_error failed

/-- Where a thread comes with the native calls of an attempt in an open store. -/
def Attempt.leads (attempt : Attempt) (store : Nat) : Except Raised PUnit → Point
  | .ok _ => .returning store
  | .error raised =>
    if isNative raised.kind then .discarding store attempt raised else .raising (some store) raised

variable (native guest)
variable {Thread : Type} (thread : Thread)

/-- One native call of an attempt: it raises what the attempt raises, or the thread goes on
to the next call, or it was the last one and the attempt is done. -/
theorem lone_call (attempt : Attempt) (store : Nat) (shared : Shared) (call : NativeCall)
    (later : ∀ following, call.after attempt.maxMemoryPages.isSome = some following →
      Lone native guest thread (shared, .attempting following store attempt) (shared,
        attempt.leads store (attempted native guest attempt.maxMemoryPages attempt.initialPages))) :
    Lone native guest thread (shared, .attempting call store attempt) (shared,
      attempt.leads store (attempted native guest attempt.maxMemoryPages attempt.initialPages)) := by
  cases ended : attempt.ends native guest call with
  | error raised =>
    have replied : reply native guest (.attempting call store attempt) =
        some (.ends (.error raised)) := by
      rw [← ended]
      rfl
    rw [attempt.raised ended]
    refine Alone.head replied ?_ .refl
    simp only [next, Attempt.leads]
    split <;> rfl
  | ok done =>
    have replied : reply native guest (.attempting call store attempt) = some (.ends (.ok done)) := by
      rw [← ended]
      rfl
    cases follows : call.after attempt.maxMemoryPages.isSome with
    | some following =>
      refine Alone.head replied ?_ (later following follows)
      simp only [next, follows]
    | none =>
      obtain rfl : call = .instantiating := by
        cases call <;> simp_all [NativeCall.after]
      rw [← attempt.ends_last, ended]
      exact Alone.head replied rfl .refl

/-- All native calls of an attempt: they lead where the attempt leads.

Proof: from the last call to the first one, each leads there with the next. -/
theorem lone_attempt (attempt : Attempt) (store : Nat) (shared : Shared) :
    Lone native guest thread (shared, .attempting .arming store attempt) (shared,
      attempt.leads store (attempted native guest attempt.maxMemoryPages attempt.initialPages)) := by
  have goes := lone_call native guest thread attempt store shared
  have instantiates := goes .instantiating (fun _ => nofun)
  have registers := goes .registering (fun _ follows => by cases follows; exact instantiates)
  have limits := goes .limiting (fun _ follows => by cases follows; exact registers)
  have allocates := goes .allocating (fun following follows => by
    cases limited : attempt.maxMemoryPages.isSome <;> rw [limited] at follows <;> cases follows
    · exact registers
    · exact limits)
  exact goes .arming (fun _ follows => by cases follows; exact allocates)

end Attempts

section Construction

variable {σ : Type} (native : Nat → Native σ) (guest : Guest σ) {Thread : Type} (thread : Thread)

/-- The shared state with the lock and the stores of a process. -/
def Shared.tally (shared : Shared) (process : Process) : Shared :=
  { shared with
    lock := process.locked, opened := process.opened, openStores := process.openStores }

/-- Closing the store of the runtime is the same on both sides. -/
theorem Shared.tally_close (shared : Shared) (process : Process) :
    (shared.tally process).closeCurrent process.current = shared.tally process.closeStore := by
  cases current : process.current with
  | none => simp [Shared.closeCurrent, Shared.tally, Process.closeStore, current]
  | some store => simp [Shared.closeCurrent, Shared.closeStore, Shared.tally, Process.closeStore, current]

/-- A constructor that raises releases no runtime. -/
theorem Shared.release_raised (shared : Shared) (current : Option Nat) (raised : Raised) :
    shared.release current (some raised) = shared := by
  cases current <;> rfl

/-- A store that opens, and all native calls of its attempt. -/
theorem lone_opening (attempt : Attempt) {process : Process} {store : σ}
    (made : (native attempt.initialPages).newStore = .ok store) (shared : Shared) :
    Lone native guest thread (shared.tally process, .opening process.current attempt)
      (shared.tally process.openStore, attempt.leads process.opened
        (attempted native guest attempt.maxMemoryPages attempt.initialPages)) := by
  have replied : reply native guest (.opening process.current attempt) = some (.ends (.ok ⟨⟩)) := by
    simp only [reply, Attempt.opens, made]
    rfl
  exact Alone.head replied rfl (lone_attempt native guest thread attempt _ _)

/-- The handler of an attempt closes its store and goes round with more pages, where memory
overflowed below the ceiling. -/
theorem lone_again (attempt : Attempt) (process : Process) {raised : Raised} (shared : Shared)
    (overflow : isMemoryOverflowTrap raised = true) (room : attempt.initialPages < attempt.ceiling) :
    Lone native guest thread
      (shared.tally process.openStore, .discarding process.opened attempt raised)
      (shared.tally process.openStore.closeStore,
        .opening (some process.opened) (attempt.doubled room)) := by
  have closed : (shared.tally process.openStore).closeStore process.opened =
      shared.tally process.openStore.closeStore := shared.tally_close process.openStore
  refine Alone.head rfl ?_ .refl
  simp only [next, dif_pos (And.intro overflow room), closed]

/-- Otherwise it closes the store and raises. -/
theorem lone_gives_up (attempt : Attempt) (process : Process) {raised : Raised} (shared : Shared)
    (final : ¬(isMemoryOverflowTrap raised = true ∧ attempt.initialPages < attempt.ceiling)) :
    Lone native guest thread
      (shared.tally process.openStore, .discarding process.opened attempt raised)
      (shared.tally process.openStore.closeStore,
        .raising (some process.opened) (instantiationFailure raised)) := by
  have closed : (shared.tally process.openStore).closeStore process.opened =
      shared.tally process.openStore.closeStore := shared.tally_close process.openStore
  refine Alone.head rfl ?_ .refl
  simp only [next, dif_neg final, closed]

/-- The retry loop, from its point of opening the next store.

Proof: by induction on the attempts that the program allows itself, of which there are
enough. The store opens, or the loop raises. The attempt leads out of the loop, or to its
handler, which gives up or goes round with more pages. -/
theorem lone_retryLoop (attempt : Attempt) (left : Nat)
    (below : attempt.initialPages ≤ attempt.ceiling)
    (enough : attempt.ceiling < attempt.initialPages + left) (process : Process) (shared : Shared) :
    Ends (retryLoop native guest attempt.maxMemoryPages attempt.ceiling left attempt.initialPages)
      process
      (fun _ after => ∃ store, after.current = some store ∧
        Lone native guest thread (shared.tally process, .opening process.current attempt)
          (shared.tally after, .returning store))
      (fun raised after =>
        Lone native guest thread (shared.tally process, .opening process.current attempt)
          (shared.tally after, .raising after.current raised)) := by
  induction left generalizing attempt process with
  | zero => omega
  | succ left inductionHypothesis =>
    unfold retryLoop
    refine ends_bind ((ends_newStore attempt.initialPages process).mono ?_ ?_)
    · rintro store _ ⟨made, log, rfl⟩
      have walks := @lone_opening σ native guest Thread thread attempt process _ made shared
      refine ends_tryCatch (ends_bind ((ends_attempt made _).mono ?_ ?_))
      · rintro ended _ ⟨fine, log', rfl⟩
        rw [fine] at walks
        exact ends_pure ⟨_, rfl, walks⟩
      · rintro raised _ ⟨failed, log', rfl⟩
        rw [failed] at walks
        cases native' : isNative raised.kind with
        | false =>
          simp only [Attempt.leads, native', Bool.false_eq_true, if_false] at walks
          exact ends_throw walks
        | true =>
          simp only [Attempt.leads, native', if_true] at walks
          refine ends_bind (ends_modify ?_)
          by_cases again : isMemoryOverflowTrap raised = true ∧
              attempt.initialPages < attempt.ceiling
          · have goes := walks.trans
              (lone_again native guest thread attempt process shared again.1 again.2)
            rw [if_neg (by simp [again.1]), if_neg (by omega)]
            refine (inductionHypothesis (attempt.doubled again.2) (Nat.min_le_right _ _) ?_ _).mono
              ?_ ?_
            · have fewer := attempt.left_doubled again.2
              change attempt.ceiling < _
              unfold Attempt.left at fewer
              change attempt.ceiling - (attempt.doubled again.2).initialPages < _ at fewer
              omega
            · rintro world after ⟨store, current, onward⟩
              exact ⟨store, current, goes.trans onward⟩
            · exact fun error after onward => goes.trans onward
          · have raises := walks.trans
              (lone_gives_up native guest thread attempt process shared again)
            refine ends_ite (fun _ => ends_throw raises) fun overflow => ?_
            refine ends_ite (fun _ => ends_throw raises) fun room => ?_
            exact absurd ⟨by simpa using overflow, Nat.lt_of_not_le room⟩ again
    · rintro raised _ ⟨failed, log, rfl⟩
      have opens : reply native guest (.opening process.current attempt) =
          some (.ends (.error raised)) := by
        simp only [reply, Attempt.opens, failed]
        rfl
      exact Alone.head opens rfl .refl

/-- Where a thread is after its call of the constructor. -/
def entered (maxMemoryPages : Option Nat) : Point :=
  if belowMinimum maxMemoryPages then .idle (some (.error (minimumError maxMemoryPages)))
  else .acquiring maxMemoryPages

/-- The constructor, from its call to its end.

Proof: below the minimum both refuse. Otherwise the thread finds the lock free, runs the
retry loop under it, and either returns the runtime or takes the lock a second time to
close what is left of it. -/
theorem lone_construct (maxMemoryPages : Option Nat) (process : Process)
    (free : process.locked = false) (shared : Shared) :
    Ends (construct native guest maxMemoryPages) process
      (fun _ after => ∃ store, after.current = some store ∧
        Lone native guest thread (shared.tally process, entered maxMemoryPages)
          ({ shared.tally after with runtimes := store :: shared.runtimes },
            .idle (some (.ok store))))
      (fun raised after =>
        Lone native guest thread (shared.tally process, entered maxMemoryPages)
          (shared.tally after, .idle (some (.error raised)))) := by
  unfold construct entered
  dsimp only
  by_cases small : belowMinimum maxMemoryPages = true
  · have refused : maxMemoryPages.any (fun pages => pages < defaultMemoryPages) = true := small
    rw [if_pos refused, if_pos small]
    exact ends_throw Relation.ReflTransGen.refl
  · have admitted : ¬maxMemoryPages.any (fun pages => pages < defaultMemoryPages) = true := small
    have enough : defaultMemoryPages ≤ instantiationCeiling maxMemoryPages := by
      cases maxMemoryPages with
      | none => decide
      | some pages => simpa [instantiationCeiling] using admitted
    rw [if_neg admitted, if_neg small]
    refine ends_bind (ends_modify (ends_tryCatch (ends_withLock free ?_)))
    have locks : next (shared.tally process) (.acquiring maxMemoryPages) .go =
        some (shared.tally { process with current := none, locked := true },
          .opening none (.first maxMemoryPages)) := by
      simp [next, Shared.tally, free]
    have loops := lone_retryLoop native guest thread (.first maxMemoryPages)
      (instantiationCeiling maxMemoryPages) enough
      (Nat.lt_add_of_pos_left (show 0 < defaultMemoryPages by decide))
      { process with current := none, locked := true } shared
    refine loops.mono ?_ ?_
    · rintro world after ⟨store, current, onward⟩
      refine ⟨store, current, Alone.head rfl locks (onward.trans (Alone.head rfl rfl .refl))⟩
    · intro raised after onward
      refine ends_bind ((ends_close rfl).mono ?_ fun _ _ => False.elim)
      rintro _ _ rfl
      refine ends_throw (Alone.head rfl locks (onward.trans ?_))
      have finalises : next (shared.tally { after with locked := true })
          (.finalising after.current (some raised)) .go =
            some (shared.tally { after.closeStore with locked := true }, .leaving (some raised)) := by
        have closed : (shared.tally { after with locked := true }).closeCurrent after.current =
            shared.tally { after.closeStore with locked := true } :=
          shared.tally_close { after with locked := true }
        simp only [next, closed, Shared.release_raised]
      exact Alone.head rfl rfl (Alone.head rfl rfl (Alone.head rfl finalises
        (Alone.head rfl rfl .refl)))

/-- A thread that rests calls the constructor while the lock is free, and no other thread
acts. However the given native calls end, the thread comes to rest again, and in one way
only: with the store of the runtime or the error of the sequential constructor, and with
the stores open that the sequential constructor leaves open.

Proof: the constructor is a run of the thread alone, which is a run of the process, and
where a thread alone comes to rest is determined. -/
theorem constructs_alone [DecidableEq Thread] (maxMemoryPages : Option Nat)
    {state : State Thread Shared Point} {last : Option (Except Raised Nat)}
    (resting : state.threads thread = .idle last) (process : Process)
    (free : process.locked = false) (counts : state.shared.tally process = state.shared) :
    ∃ called shared' ended,
      (NativeLifecycle.process Thread).step state (thread, .callConstruct maxMemoryPages) =
        some called ∧
      Reaches (NativeLifecycle.process Thread) (onlyOne thread (reply native guest)) called
        ⟨shared', Function.update state.threads thread (.idle (some ended))⟩ ∧
      (∀ after, Reaches (NativeLifecycle.process Thread) (onlyOne thread (reply native guest))
          called after → reply native guest (after.threads thread) = none →
        after = ⟨shared', Function.update state.threads thread (.idle (some ended))⟩) ∧
      Ends (construct native guest maxMemoryPages) process
        (fun _ after => ∃ store, after.current = some store ∧ ended = .ok store ∧
          shared' = { state.shared.tally after with runtimes := store :: state.shared.runtimes })
        (fun raised after => ended = .error raised ∧ shared' = state.shared.tally after) := by
  obtain ⟨called, isCalled⟩ : ∃ called : State Thread Shared Point,
      called = ⟨state.shared, Function.update state.threads thread (entered maxMemoryPages)⟩ :=
    ⟨_, rfl⟩
  have stepped : (NativeLifecycle.process Thread).step state (thread, .callConstruct maxMemoryPages) =
      some called := by
    simp only [NativeLifecycle.process, machine, resting, next, entered, isCalled]
    split <;> rfl
  have settles (shared' : Shared) (ended : Except Raised Nat)
      (alone : Lone native guest thread (state.shared, entered maxMemoryPages)
        (shared', .idle (some ended))) :
      Reaches (NativeLifecycle.process Thread) (onlyOne thread (reply native guest)) called
          ⟨shared', Function.update state.threads thread (.idle (some ended))⟩ ∧
        ∀ after, Reaches (NativeLifecycle.process Thread) (onlyOne thread (reply native guest))
            called after → reply native guest (after.threads thread) = none →
          after = ⟨shared', Function.update state.threads thread (.idle (some ended))⟩ := by
    have alone : Alone (fun _ => next) thread (reply native guest)
        (called.shared, called.threads thread) (shared', .idle (some ended)) := by
      rw [isCalled]
      simp only [Function.update_self]
      exact alone
    have others (point : Point) :
        Function.update called.threads thread point = Function.update state.threads thread point := by
      rw [isCalled, Function.update_idem]
    rw [← others]
    exact alone.settles rfl
  have ends := lone_construct native guest thread maxMemoryPages process free state.shared
  rw [counts] at ends
  unfold Ends at ends ⊢
  cases result : construct native guest maxMemoryPages process with
  | ok world after =>
    rw [result] at ends
    obtain ⟨store, current, alone⟩ := ends
    obtain ⟨reaches, unique⟩ := settles _ _ alone
    exact ⟨_, _, _, stepped, reaches, unique, store, current, rfl, rfl⟩
  | error raised after =>
    rw [result] at ends
    obtain ⟨reaches, unique⟩ := settles _ _ ends
    exact ⟨_, _, _, stepped, reaches, unique, rfl, rfl⟩

end Construction

end OpaPyWasm.NativeLifecycle
