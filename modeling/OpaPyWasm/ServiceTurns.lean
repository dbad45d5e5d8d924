import OpaPyWasm.Library.SerialDocument
import OpaPyWasm.PoolWakeup
import OpaPyWasm.ServiceRefinement

/-!
# Calls in turn

Where no call begins before the last one has returned, a policy is a plain document. Its
answers are then the ones of the text of the calls alone, and none is a borrow timeout,
whatever the configured time: a borrower that has the pool to itself finds an entry in the
queue, and a wait that can draw an entry does not time out.

So a run that shows calls in turn is also a run of the same policy without a borrow
timeout, and that policy refines a document on which no query gives up.
-/

namespace OpaPyWasm.InstancePool

variable {α : Type}

/-- Only a timeout asks for the borrow timeout. -/
theorem next_patient (config : Config) (shared : Shared) (point : Point α) {action : Action α}
    (drawn : action ≠ .timeout) :
    next { config with timed := false } shared point action = next config shared point action := by
  cases point with
  | drawn slot => cases slot <;> cases action <;> rfl
  | restoring instance? => cases instance? <;> cases action <;> rfl
  | _ => cases action <;> first | rfl | exact absurd rfl drawn

end OpaPyWasm.InstancePool

namespace OpaPyWasm.Policy

variable {Thread Arg Doc : Type}

/-- A step of the pool that is no timeout does not ask for the borrow timeout. -/
theorem inPool_patient (config : Config) (shared : Shared Thread Doc)
    (point : InstancePool.Point (Option Doc)) {action : InstancePool.Action (Option Doc)}
    (follow : InstancePool.Point (Option Doc) → Control Arg Doc) (drawn : action ≠ .timeout) :
    inPool { config with pool := { config.pool with timed := false } } shared point action follow =
      inPool config shared point action follow := by
  unfold inPool
  rw [InstancePool.next_patient config.pool shared.pool point drawn]

/-- Nor does a step inside `borrow`. -/
theorem borrowStep_patient (config : Config) (shared : Shared Thread Doc)
    (point : InstancePool.Point (Option Doc)) :
    borrowStep { config with pool := { config.pool with timed := false } } shared point =
      (borrowStep config shared point : Option (Shared Thread Doc × Local Arg Doc)) := by
  unfold borrowStep
  split
  · rfl
  all_goals exact inPool_patient config _ _ _ (by nofun)

/-- Nor does any other step of the policy. -/
theorem next_patient (config : Config) (encode : Arg → Option Doc) (thread : Thread)
    (shared : Shared Thread Doc) (here : Local Arg Doc) {action : Action Arg Doc}
    (drawn : action ≠ .timeout) :
    next { config with pool := { config.pool with timed := false } } encode thread shared here action =
      next config encode thread shared here action := by
  have pool (shared : Shared Thread Doc) point action follow (other : action ≠ .timeout) :
      inPool { config with pool := { config.pool with timed := false } } shared point action follow =
        (inPool config shared point action follow : Option (Shared Thread Doc × Local Arg Doc)) :=
    inPool_patient config shared point follow other
  obtain ⟨control, point⟩ := here
  cases control with
  | idle | entered | poolClosing | built | leaving =>
    cases action <;> first | rfl | exact pool _ _ _ _ nofun
  | building =>
    cases action with
    | factoryRaises => exact pool shared point .factoryRaises afterBorrow nofun
    | _ => rfl
  | guest =>
    cases action with
    | guestFails => exact pool shared point .poison (fun _ => .leaving) nofun
    | _ => rfl
  | ensuring ensure => cases ensure <;> cases action <;> rfl
  | borrowing =>
    cases action with
    | timeout => exact absurd rfl drawn
    | go => exact borrowStep_patient config shared point
    | reloadRaises poisons contents =>
      cases point with
      | reloading id data version =>
        exact pool (shared.load id contents) (.reloading id data version) (.refreshRaises poisons)
          afterBorrow nofun
      | _ => rfl
    | _ => rfl
  | _ => cases action <;> rfl

end OpaPyWasm.Policy

namespace OpaPyWasm.PolicyService

open Exceptions Values Effects GuestCalls MemoryCodec WasmtimeRuntime PolicyInstance Machines Threads
  Refinement

variable {Thread σ : Type}

/-- The policy without a borrow timeout. -/
def Deployment.patient (policy : Deployment σ) : Deployment σ :=
  { policy with slots := { policy.slots with timed := false } }

/-- A step that is no timeout is one of the policy without a borrow timeout. -/
theorem next_patient (policy : Deployment σ) (thread : Thread) (shared : Shared Thread σ)
    (here : Local) {action : Action} (drawn : action ≠ .take .timeout) :
    next policy.patient thread shared here action = next policy thread shared here action := by
  have inner taken (other : taken ≠ .timeout) :
      Policy.next policy.patient.config policy.patient.encode thread shared.policy here.policy taken =
        Policy.next policy.config policy.encode thread shared.policy here.policy taken :=
    Policy.next_patient policy.config policy.encode thread shared.policy here.policy other
  cases action with
  | callEvaluate request =>
    unfold next
    rw [inner .callEvaluate nofun]
  | take taken =>
    have other : taken ≠ .timeout := fun same => drawn (congrArg Action.take same)
    by_cases called : taken = .callEvaluate
    · subst called
      rfl
    · rw [next_take called, next_take called, inner taken other]
      rfl

/-- A thread that rests is in no call. -/
theorem idle_of_resting {policy : Deployment σ} {here : Local}
    (rests : standing policy here = .resting) : ∃ last, here.policy.control = .idle last := by
  obtain ⟨⟨control, point⟩, request, plan, seen, answer⟩ := here
  cases control with
  | idle last => exact ⟨last, rfl⟩
  | borrowing => cases point <;> cases rests
  | poolClosing => cases point <;> cases rests
  | building data version =>
    simp only [standing, constructing] at rests
    split at rests <;> cases rests
  | _ => cases rests

section Run

variable [Fintype Thread] [DecidableEq Thread] {policy : Deployment σ} {blank : World σ}
  {state : State Thread (Shared Thread σ) Local}

/-- A borrower whose wait may time out is in a call, and it is not alone: another thread is
in one, too.

Proof: it found the queue empty. Threads that rest hold no slot of the pool and are not
inside its `close`, so if all others rested the queue would have an entry. -/
theorem timeout_not_alone (reached : ReachableUnder (service policy blank) calm state)
    {thread : Thread} {shared' : Shared Thread σ} {here' : Local}
    (acted : next policy thread state.shared (state.threads thread) (.take .timeout) =
      some (shared', here')) :
    (∀ last, (state.threads thread).policy.control ≠ .idle last) ∧
      ¬∀ other, other ≠ thread → ∃ last, (state.threads other).policy.control = .idle last := by
  have outside := outer_reachable reached
  rcases next_cases acted with ⟨_, called, -⟩ | ⟨taken, -, same, -, -, stepped, -⟩
  · cases called
  obtain rfl : taken = .timeout := (Action.take.inj same).symm
  have waits : (state.threads thread).policy.control = .borrowing ∧
      (state.threads thread).policy.pool = .waiting ∧ state.shared.policy.pool.idle = [] := by
    have move := Policy.next_move stepped
    generalize (state.threads thread).policy.control = control at move
    generalize shared'.policy = record at move
    generalize here'.policy = there at move
    cases move with
    | borrowTimedOut drawn =>
      generalize (state.threads thread).policy.pool = point at drawn
      cases InstancePool.next_move drawn with
      | timedOut _ empty => exact ⟨rfl, rfl, empty⟩
  obtain ⟨busy, waiting, empty⟩ := waits
  refine ⟨fun last idle => ?_, fun alone => ?_⟩
  · rw [busy] at idle
    cases idle
  have rests (other : Thread) : (state.threads other).policy.pool = .waiting ∨
      ∃ last, (state.threads other).policy.pool = .outside last := by
    by_cases same : other = thread
    · rw [same]
      exact .inl waiting
    · obtain ⟨last, idle⟩ := alone other same
      have aligned : (state.threads other).policy.Aligned := Policy.aligned_reachable outside other
      unfold Policy.Local.Aligned at aligned
      rw [idle] at aligned
      exact .inr aligned
  refine InstancePool.slot_found (Policy.inner_reachable outside) (fun other => ?_) (fun other => ?_)
    empty
  · change (state.threads other).policy.pool.holdsSlot = false
    rcases rests other with point | ⟨last, point⟩ <;> rw [point] <;> rfl
  · change (state.threads other).policy.pool.locks = 0
    rcases rests other with point | ⟨last, point⟩ <;> rw [point] <;> rfl

section Guest

variable {space : Regions.Space σ} {origin : World σ}
  (bump : BumpGuest policy.setup.guest space) (opened : Opened policy.setup origin)
  (starts : ∀ guest, Ends policy.setup.guest.startTicker guest (fun _ _ => True) (fun _ _ => False))
  {events : List (SharedDocument.Event Thread (Option Document) Request Answer)}
  {calls : List (SharedDocument.Completed Thread (Option Document) Request Answer)}
  {last : State Thread (Shared Thread σ) Local}
include bump opened starts

/-- The patient policy is the document on which no query gives up. -/
theorem patient_refines :
    Refines (service policy.patient blank : Machine (State Thread (Shared Thread σ) Local)
        (Thread × Action))
      calm (lookAt sight)
      (SharedDocument.object policy.patient.meaning none) (lookAt SharedDocument.sight)
      (State.project Shared.document (standing policy.patient)) :=
  @service_refines Thread σ policy.patient _ _ bump opened starts _ _ blank

/-- Where a run of the patient policy has shown a part of calls in turn, at most one thread
is in a call. -/
theorem alone_in_turn {seen : List (SharedDocument.Event Thread (Option Document) Request Answer)}
    (ran : Shows (service policy.patient blank) calm (lookAt sight)
      (service policy.patient blank).initial seen state)
    (shows : seen <+: SharedDocument.history calls) {thread : Thread}
    (busy : ∀ last, (state.threads thread).policy.control ≠ .idle last) (other : Thread)
    (different : other ≠ thread) : ∃ last, (state.threads other).policy.control = .idle last := by
  have documented := (patient_refines bump opened starts).shows ran
  obtain ⟨done, rest, -, ⟨-, -, resting⟩ | ⟨earlier, completed, further, -, -, -, -, resting⟩⟩ :=
    SharedDocument.follows_of_shows rfl documented shows
  · exact idle_of_resting (resting other)
  · have acting : thread = completed.thread := by
      by_contra elsewhere
      obtain ⟨final, idle⟩ := idle_of_resting (resting thread elsewhere)
      exact busy final idle
    exact idle_of_resting (resting other (acting ▸ different))

/-- A run that shows calls in turn has no timeout, so it is a run of the policy without a
borrow timeout. -/
theorem patient_of_turns
    (shown : Shows (service policy blank) calm (lookAt sight) (service policy blank).initial events
      last) (turns : SharedDocument.inTurn events = some calls) :
    Shows (service policy.patient blank) calm (lookAt sight) (service policy.patient blank).initial
      events last := by
  refine shown.transfer (fun before label after seen ran reached calmly stepped shows => ⟨calmly, ?_⟩)
  obtain ⟨shared', here', acted, rfl⟩ := step_cases stepped
  rw [SharedDocument.history_of_inTurn events calls turns] at shows
  have drawn : label.2 ≠ .take .timeout := by
    intro timeout
    rw [timeout] at acted
    obtain ⟨busy, accompanied⟩ := timeout_not_alone reached acted
    exact accompanied (alone_in_turn bump opened starts ran ((List.prefix_append _ _).trans shows) busy)
  change (next policy.patient label.1 before.shared (before.threads label.1) label.2).map _ = _
  rw [next_patient policy label.1 before.shared (before.threads label.1) drawn, acted]
  rfl

/-- What a run shows whose calls are in turn, the document shows on which no query gives
up. -/
theorem seen_in_turn
    (shown : Shows (service policy blank) calm (lookAt sight) (service policy blank).initial events
      last) (turns : SharedDocument.inTurn events = some calls) :
    SharedDocument.Seen policy.patient.meaning none (SharedDocument.history calls) := by
  rw [← SharedDocument.history_of_inTurn events calls turns]
  exact ⟨_, (patient_refines bump opened starts).shows
    (patient_of_turns bump opened starts shown turns)⟩

/-- Calls that do not overlap, by whichever threads, get the answers of a plain document:
an evaluation the one of a new instance on the document of the last `set_data`, and after
`close` a refusal. None of them times out, however short the borrow timeout is.

Proof: while the calls are in turn the one under way is alone, and whoever is alone finds a
slot. So the run is one of the policy without a borrow timeout, which refines a document that
knows none. -/
theorem calls_in_turn_serial
    (shown : Shows (service policy blank) calm (lookAt sight) (service policy blank).initial events
      last) (turns : SharedDocument.inTurn events = some calls) :
    ∃ final, SharedDocument.Serial policy.meaning ⟨none, true, true⟩ calls final := by
  obtain ⟨final, serial⟩ :=
    SharedDocument.Seen.serial rfl (seen_in_turn bump opened starts shown turns)
  exact ⟨final, SharedDocument.Serial.of_patient serial⟩

end Guest

end Run

/-- A policy of one instance on the tape, with a borrow timeout. -/
def timedPolicy : Deployment Tape :=
  { tapePolicy with slots := { InstancePool.singleSlot with timed := true } }

/-- An update, then an evaluation, a `close`, and an evaluation that is refused. -/
def updatedBefore : List (InstancePool.Caller × Action) :=
  InstancePool.Caller.first.does [.take (.callSetData (some (.bytes [7])))] ++
  InstancePool.Caller.first.does (List.replicate 4 (.take .go)) ++
  InstancePool.Caller.second.does [.callEvaluate ⟨.bytes [5], none, false⟩] ++
  InstancePool.Caller.second.does (List.replicate 18 (.take .go)) ++
  InstancePool.Caller.first.does [.take .callClose] ++
  InstancePool.Caller.first.does (List.replicate 11 (.take .go)) ++
  InstancePool.Caller.second.does [.callEvaluate ⟨.bytes [5], none, false⟩] ++
  InstancePool.Caller.second.does (List.replicate 7 (.take .go))

/-- Four calls in turn, of which the first evaluation is answered from the update. -/
theorem calls_in_turn_serial_updated :
    ∃ calls : List (SharedDocument.Completed InstancePool.Caller (Option Document) Request Answer),
      calls.length = 4 ∧ (SharedDocument.history calls).filterMap tapeNumbers = [[7, 5]] ∧
        ∃ final, SharedDocument.Serial timedPolicy.meaning ⟨none, true, true⟩ calls final := by
  have watched : ((watch (service timedPolicy (tapeBuilt none)) calm (lookAt sight)
      (service timedPolicy (tapeBuilt none)).initial updatedBefore).bind (fun seen =>
        (SharedDocument.inTurn seen.1).map (fun calls =>
          (calls.length, (SharedDocument.history calls).filterMap tapeNumbers)))) =
        some (4, [[7, 5]]) := by
    decide +kernel
  obtain ⟨⟨events, last⟩, executed, paired⟩ := Option.bind_eq_some_iff.mp watched
  obtain ⟨calls, turns, same⟩ := Option.map_eq_some_iff.mp paired
  obtain ⟨length, numbers⟩ := Prod.mk.inj same
  obtain ⟨origin, opened⟩ := tape_opened
  refine ⟨calls, length, numbers, ?_⟩
  exact @calls_in_turn_serial _ _ _ _ timedPolicy _ _ _ tape_bump opened tape_starts _ _ _
    (watch_shows _ _ _ _ executed) turns

end OpaPyWasm.PolicyService
