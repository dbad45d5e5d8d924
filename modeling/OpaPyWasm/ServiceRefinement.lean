import OpaPyWasm.Library.SharedDocument
import OpaPyWasm.LiveInstances
import OpaPyWasm.ServedInstances

/-!
# The policy is one document

To its callers a policy with its pool, its locks and its lazily reloaded instances is
one document that `set_data` replaces and `evaluate` is answered from. An update takes
effect at its commit. The answer of an evaluation is decided when its borrower reads
the snapshot for the refresh: whatever is drawn, built, reloaded or discarded, the
answer is the one of a new instance on the data of that moment.

Closing has two moments. The pool's flag stops evaluations from being admitted, and
the policy's own flag, set later, stops `set_data`.
-/

namespace OpaPyWasm.PolicyService

open Exceptions Values Effects GuestCalls MemoryCodec WasmtimeRuntime PolicyInstance Machines Threads
  Refinement

variable {Thread σ : Type}

/-- What the calls of a policy mean: each evaluation is asked of a new instance. -/
def Deployment.meaning (policy : Deployment σ) :
    SharedDocument.Meaning (Option Raw) (Option Document) Request Plan Answer where
  serialise := policy.serialise
  resolve := policy.resolve
  decide := policy.decide
  done := .done
  refused := Deployment.refused
  timedOut := if policy.slots.timed then some policy.timedOut else none

/-- The document of a policy, and whether it is closed to evaluations and to updates. -/
def Shared.document (shared : Shared Thread σ) : SharedDocument.Shared (Option Raw) :=
  ⟨shared.policy.data, !shared.policy.pool.closedEvent, !shared.policy.closed⟩

/-- How far an evaluation has come inside `borrow`. -/
def borrowing (policy : Deployment σ) (here : Local) :
    SharedDocument.Standing (Option Raw) (Option Document) Request Plan Answer :=
  match here.policy.pool with
  | .borrow => .asking here.plan
  | .waiting => .admitted here.plan
  | .drawn _ => .admitted here.plan
  | .dropping _ => .admitted here.plan
  | .reposting => .admitted here.plan
  | .creating => .admitted here.plan
  | .counting _ => .admitted here.plan
  | .refreshing _ => .admitted here.plan
  | .comparing _ data _ => .decided (policy.decide data here.plan)
  | .reloading _ data _ => .decided (policy.decide data here.plan)
  | _ => .decided here.answer

/-- How far a call of `close` has come inside the pool. -/
def closing (here : Local) :
    SharedDocument.Standing (Option Raw) (Option Document) Request Plan Answer :=
  match here.policy.pool with
  | .draining => .shutting
  | .drainClosing _ => .shutting
  | .posting => .shutting
  | .unlocking => .shutting
  | _ => .closing

/-- How far a construction has come whose code will raise or return. -/
def constructing (policy : Deployment σ) (here : Local) (data : Option Raw) (version : Nat) :
    SharedDocument.Standing (Option Raw) (Option Document) Request Plan Answer :=
  match policy.build data version with
  | .error raised _ => .decided (.raised raised)
  | .ok _ _ => .admitted here.plan

/-- How far a thread has come with its call. -/
def standing (policy : Deployment σ) (here : Local) :
    SharedDocument.Standing (Option Raw) (Option Document) Request Plan Answer :=
  match here.policy.control with
  | .idle _ => .resting
  | .checking argument => .updating argument
  | .serialising argument => .accepted argument
  | .committing document => .storing document
  | .settled _ => .decided .done
  | .resolving => .querying here.request
  | .entering => .asking here.plan
  | .entered => .asking here.plan
  | .borrowing => borrowing policy here
  | .building data version => constructing policy here data version
  | .ensuring _ _ _ => .admitted here.plan
  | .built _ _ => .admitted here.plan
  | .loaned => .decided (policy.decide here.seen here.plan)
  | .guest => .decided (policy.decide here.seen here.plan)
  | .leaving => .decided here.answer
  | .exiting => .decided here.answer
  | .stopping _ => .decided here.answer
  | .clearing _ => .decided here.answer
  | .poolClosing => closing here
  | .marking => .shutting

section Steps

variable {policy : Deployment σ} {thread : Thread} {shared shared' : Shared Thread σ}
  {here here' after : Local} {taken : Policy.Action Document Raw}

/-- The steps of the document by one thread, with what they show. -/
abbrev Matched (policy : Deployment σ) (thread : Thread) (shared : Shared Thread σ) (here : Local)
    (events : List (SharedDocument.Event Thread (Option Document) Request Answer))
    (shared' : Shared Thread σ) (here' : Local) : Prop :=
  Acts (fun _ => SharedDocument.next policy.meaning) SharedDocument.sight thread shared.document
    (standing policy here) events shared'.document (standing policy here')

/-- A step that changes nothing the callers could tell is no step of the document. -/
theorem matched_silent {events : List (SharedDocument.Event Thread (Option Document) Request Answer)}
    (document : shared'.document = shared.document)
    (stands : standing policy here' = standing policy here) (silent : events = []) :
    Matched policy thread shared here events shared' here' := by
  unfold Matched
  rw [document, stands, silent]
  exact .rests _ _

/-- A step that is one silent step of the document. -/
theorem matched_once (action : SharedDocument.Action (Option Document) Request)
    {events : List (SharedDocument.Event Thread (Option Document) Request Answer)}
    (acted : SharedDocument.next policy.meaning shared.document (standing policy here) action =
      some (shared'.document, standing policy here'))
    (shows : events = SharedDocument.sight thread (standing policy here) action
      (standing policy here')) :
    Matched policy thread shared here events shared' here' := by
  rw [shows]
  exact acts_once acted

/-- A thread that goes on and is not back yet shows no answer. -/
theorem sight_go (busy : ∀ last, after.policy.control ≠ .idle last) :
    sight thread here (.take .go) after = [] := by
  cases control : after.policy.control with
  | idle last => exact absurd control (busy last)
  | _ => simp only [sight, control]

/-- Inside `borrow` and behind it a thread is not back yet. -/
theorem busy_afterBorrow (point : InstancePool.Point (Option Raw)) (last : Option Policy.Outcome) :
    (Policy.afterBorrow point : Policy.Control Document Raw) ≠ .idle last := by
  unfold Policy.afterBorrow
  split <;> simp

/-- Inside the pool's `close` and behind it a thread is not back yet. -/
theorem busy_afterPoolClose (point : InstancePool.Point (Option Raw)) (last : Option Policy.Outcome) :
    (Policy.afterPoolClose point : Policy.Control Document Raw) ≠ .idle last := by
  unfold Policy.afterPoolClose
  split <;> simp

/-- A step that decides the answer and gives it to the caller is two steps of the
document. -/
theorem matched_answered (action : SharedDocument.Action (Option Document) Request)
    {events : List (SharedDocument.Event Thread (Option Document) Request Answer)} {answer : Answer}
    (acted : SharedDocument.next policy.meaning shared.document (standing policy here) action =
      some (shared'.document, .decided answer))
    (silent : SharedDocument.sight thread (standing policy here) action (.decided answer) = [])
    (rests : standing policy here' = .resting) (shows : events = [.returned thread answer]) :
    Matched policy thread shared here events shared' here' := by
  have answered : SharedDocument.next policy.meaning shared'.document (.decided answer) .answer =
      some (shared'.document, .resting) := rfl
  have both : Acts (fun _ => SharedDocument.next policy.meaning) SharedDocument.sight thread
      shared.document (standing policy here) _ shared'.document .resting :=
    acts_twice acted answered
  rw [silent] at both
  unfold Matched
  rw [shows, rests]
  exact both

section Borrowing

variable {pool' : InstancePool.Shared} {point point' : InstancePool.Point (Option Raw)}
  {request : Request} {plan : Plan} {seen : Option Raw} {answer : Answer} {worlds : Nat → World σ}

/-- A step inside `borrow` that reads or moves slots. The answer is refused where the
pool is found closed, and it is left as decided behind the loan.

Proof: the test of the flag admits or refuses, and a drawn sentinel refuses, which finds the
flag set. The other steps of `borrow` are silent. -/
theorem matched_borrow
    (acted : InstancePool.Move policy.slots shared.policy.pool point .go pool' point')
    (inside : point.inBorrow = true)
    (took : effect policy shared ⟨⟨.borrowing, point⟩, request, plan, seen, answer⟩ .go =
      some (worlds, after))
    (refusing : point = .reposting → shared.policy.pool.closedEvent = true) :
    Matched policy thread shared ⟨⟨.borrowing, point⟩, request, plan, seen, answer⟩ []
      ⟨{ shared.policy with pool := pool' }, worlds⟩
      { after with policy := ⟨Policy.afterBorrow point', point'⟩ } := by
  cases acted with
  | borrowRefused flag =>
    simp only [effect, flag, if_true, Option.some.injEq, Prod.mk.injEq] at took
    obtain ⟨-, rfl⟩ := took
    refine matched_once .refuse ?_ rfl
    simp [SharedDocument.next, standing, borrowing, Shared.document, Deployment.meaning,
      Policy.afterBorrow, flag]
  | borrowAdmitted flag =>
    simp only [effect, flag, Option.some.injEq, Prod.mk.injEq] at took
    obtain ⟨-, rfl⟩ := took
    refine matched_once .permit ?_ rfl
    simp [SharedDocument.next, standing, borrowing, Shared.document, Policy.afterBorrow, flag]
  | sentinelReposted =>
    simp only [effect, Option.some.injEq, Prod.mk.injEq] at took
    obtain ⟨-, rfl⟩ := took
    refine matched_once .refuse ?_ rfl
    simp [SharedDocument.next, standing, borrowing, Shared.document, Deployment.meaning,
      Policy.afterBorrow, refusing rfl]
  | foundStale | foundCurrent =>
    simp only [effect, Option.some.injEq, Prod.mk.injEq] at took
    obtain ⟨-, rfl⟩ := took
    exact matched_silent rfl rfl rfl
  | instanceReturned =>
    simp only [effect, Option.some.injEq, Prod.mk.injEq] at took
    obtain ⟨-, rfl⟩ := took
    refine matched_silent ?_ rfl rfl
    unfold InstancePool.Shared.putInstance
    split <;> rfl
  | closeLocked | closeRepeated | closeFirst | flagSet | drainEnded | instanceDrained
  | emptyDrained | drainedClosed | sentinelPosted | closeUnlocked =>
    simp [InstancePool.Point.inBorrow] at inside
  | _ =>
    simp only [effect, Option.some.injEq, Prod.mk.injEq] at took
    obtain ⟨-, rfl⟩ := took
    exact matched_silent rfl rfl rfl

/-- A step of `close` inside the pool: setting the flag, or finding it set, is the
moment from which no evaluation is admitted. -/
theorem matched_close
    (acted : InstancePool.Move policy.slots shared.policy.pool point .go pool' point')
    (inside : point.inClose = true) :
    Matched policy thread shared ⟨⟨.poolClosing, point⟩, request, plan, seen, answer⟩ []
      ⟨{ shared.policy with pool := pool' }, worlds⟩
      ⟨⟨Policy.afterPoolClose point', point'⟩, request, plan, seen, answer⟩ := by
  cases acted with
  | closeRepeated flag =>
    refine matched_once .settle ?_ rfl
    simp [SharedDocument.next, standing, closing, Shared.document, Policy.afterPoolClose, flag]
  | flagSet =>
    refine matched_once .settle ?_ rfl
    simp [SharedDocument.next, standing, closing, Shared.document, Policy.afterPoolClose]
  | closeLocked | closeFirst | drainEnded | instanceDrained | emptyDrained | drainedClosed
  | sentinelPosted | closeUnlocked => exact matched_silent rfl rfl rfl
  | _ => simp [InstancePool.Point.inClose] at inside

end Borrowing

/-- The text that an update stores is the one that the other threads see. -/
theorem serialise_encode (argument : Option Document) :
    (policy.serialise argument).toOption = Policy.serialiseData policy.encode argument := by
  have projected := PolicyApi.serialiseData_projects policy.setup.json
    policy.setup.limits.maxDataBytes argument
  unfold Deployment.serialise
  cases ended : outcome (PolicyApi.serialiseData policy.setup.json
    policy.setup.limits.maxDataBytes argument) [] with
  | error raised =>
    rw [ended] at projected
    exact projected
  | ok raw =>
    rw [ended] at projected
    exact projected

end Steps

/-- An instance on loan is a used one that loaded last what its borrower saw. -/
theorem used_of_loan {policy : Deployment σ} {shared : Shared Thread σ} {id : Nat} {seen : Option Raw}
    (loaded : shared.Loaded policy id)
    (serves : (shared.policy.pool.instances id).poisoned = false ∧
      shared.policy.contents id = .document seen) :
    Used policy.setup (Deployment.document seen) (shared.worlds id) := by
  obtain ⟨unpoisoned, served⟩ := serves
  obtain ⟨data, contents, used⟩ := loaded unpoisoned
  obtain rfl : data = seen := by simpa using contents.symm.trans served
  exact used

section Guest

variable {policy : Deployment σ} {space : Regions.Space σ} {origin : World σ}
  (bump : BumpGuest policy.setup.guest space) (opened : Opened policy.setup origin)
  (starts : ∀ guest, Ends policy.setup.guest.startTicker guest (fun _ _ => True) (fun _ _ => False))
include bump opened starts

/-- What a used instance returns is the answer on the data it loaded last. -/
theorem decide_of_ok {data : Option Raw} {world after : World σ} {plan : Plan} {value : Value}
    (used : Used policy.setup (Deployment.document data) world)
    (returned : policy.evaluate plan world = .ok value after) :
    policy.decide data plan = policy.finish plan.simplified (.ok value) := by
  unfold Deployment.decide
  rw [← freshly_of_used bump opened starts used plan, outcome_ok returned]

/-- What a used instance raises is the answer on the data it loaded last. -/
theorem decide_of_error {data : Option Raw} {world after : World σ} {plan : Plan} {raised : Raised}
    (used : Used policy.setup (Deployment.document data) world)
    (failed : policy.evaluate plan world = .error raised after) :
    policy.decide data plan = .raised raised := by
  refine decide_raised ?_
  rw [← freshly_of_used bump opened starts used plan, outcome_raised failed]

variable {thread : Thread} {shared : Shared Thread σ} {here after : Local}
  {taken : Policy.Action Document Raw} {record : Policy.Shared Thread Raw}
  {there : Policy.Local Document Raw} {worlds : Nat → World σ}

/-- An action of the policy, with its effect on the instances, is matched by the
document. Only an answer that the caller is given ends the call there.

Proof: one case for each action of the policy. The steps that a caller can tell apart are
matched by one step of the document: the call, the test of the flag, the resolved entrypoint,
the snapshot or a wait that ends, the store, the answer. All others are silent. Where an
instance answers, it has loaded the snapshot that its borrower saw, so its answer is the one
decided at that snapshot. -/
theorem matched_move
    (took : effect policy shared here taken = some (worlds, after))
    (move : Policy.Move policy.config policy.encode thread shared.policy here.policy.pool
      here.policy.control taken record there) (noQuery : taken ≠ .callEvaluate)
    (calmly : (Action.take taken).calm = true) (aligned : here.policy.Aligned)
    (loaded : ∀ id < shared.policy.pool.built, shared.Loaded policy id)
    (serves : here.Serves shared)
    (healthy : ∀ id, here.policy.pool.promised = some id →
      (shared.policy.pool.instances id).poisoned = false)
    (held : ∀ id, here.policy.pool.held = some id → id < shared.policy.pool.built)
    (refusing : here.policy.pool = .reposting → shared.policy.pool.closedEvent = true) :
    Matched policy thread shared here
      (sight thread here (.take taken) { after with policy := there })
      ⟨record, worlds⟩ { after with policy := there } := by
  obtain ⟨⟨control, point⟩, request, plan, seen, answer⟩ := here
  simp only at move aligned healthy held refusing
  cases move with
  | dataCalled last argument =>
    simp only [effect, Option.some.injEq, Prod.mk.injEq] at took
    obtain ⟨-, rfl⟩ := took
    exact matched_once (.call (.update argument)) rfl rfl
  | dataClosed argument closed =>
    simp only [effect, closed, if_true, Option.some.injEq, Prod.mk.injEq] at took
    obtain ⟨-, rfl⟩ := took
    refine matched_answered .refuse ?_ rfl rfl rfl
    simp [SharedDocument.next, standing, Shared.document, Deployment.meaning, closed]
  | dataOpen argument isOpen =>
    simp only [effect, isOpen, Option.some.injEq, Prod.mk.injEq] at took
    obtain ⟨-, rfl⟩ := took
    refine matched_once .permit ?_ rfl
    simp [SharedDocument.next, standing, Shared.document, isOpen]
  | dataRefused argument refused =>
    simp only [effect] at took
    have none := (serialise_encode argument).trans refused
    cases ended : policy.serialise argument with
    | ok => simp [ended, Except.toOption] at none
    | error error =>
      simp only [ended, Option.some.injEq, Prod.mk.injEq] at took
      obtain ⟨-, rfl⟩ := took
      refine matched_answered .permit ?_ rfl rfl rfl
      simp [SharedDocument.next, standing, Deployment.meaning, Shared.document, ended]
  | dataSerialised argument document serialised =>
    simp only [effect] at took
    have text := (serialise_encode argument).trans serialised
    cases ended : policy.serialise argument with
    | error => simp [ended, Except.toOption] at text
    | ok stored =>
      simp only [ended, Option.some.injEq, Prod.mk.injEq] at took
      obtain ⟨-, rfl⟩ := took
      refine matched_once .permit ?_ rfl
      have same : stored = document := by simpa [ended, Except.toOption] using text
      simp [SharedDocument.next, standing, Deployment.meaning, Shared.document, ended, same]
  | dataCommitted document =>
    simp only [effect, Option.some.injEq, Prod.mk.injEq] at took
    obtain ⟨-, rfl⟩ := took
    exact matched_once .settle rfl rfl
  | dataSet version =>
    simp only [effect, Option.some.injEq, Prod.mk.injEq] at took
    obtain ⟨-, rfl⟩ := took
    exact matched_once .answer rfl rfl
  | evaluateCalled => exact absurd rfl noQuery
  | entrypointRefused =>
    simp only [effect] at took
    cases ended : policy.resolve request with
    | ok => simp [ended] at took
    | error error =>
      simp only [ended, Option.some.injEq, Prod.mk.injEq] at took
      obtain ⟨-, rfl⟩ := took
      refine matched_answered .permit ?_ rfl rfl rfl
      simp [SharedDocument.next, standing, Deployment.meaning, Shared.document, ended]
  | entrypointResolved =>
    simp only [effect] at took
    cases ended : policy.resolve request with
    | error => simp [ended] at took
    | ok resolved =>
      simp only [ended, Option.some.injEq, Prod.mk.injEq] at took
      obtain ⟨-, rfl⟩ := took
      refine matched_once .permit ?_ rfl
      simp [SharedDocument.next, standing, Deployment.meaning, Shared.document, ended]
  | evalEntered =>
    simp only [effect, Option.some.injEq, Prod.mk.injEq] at took
    obtain ⟨-, rfl⟩ := took
    exact matched_silent rfl rfl rfl
  | borrowCalled acted =>
    obtain ⟨last, rfl⟩ := aligned
    cases InstancePool.next_move acted
    simp only [effect, Option.some.injEq, Prod.mk.injEq] at took
    obtain ⟨-, rfl⟩ := took
    exact matched_silent rfl rfl rfl
  | buildStarted creating =>
    subst creating
    simp only [effect, Option.some.injEq, Prod.mk.injEq] at took
    obtain ⟨-, rfl⟩ := took
    cases built : policy.build shared.policy.data shared.policy.dataVersion with
    | ok fresh log =>
      refine matched_silent rfl ?_ rfl
      simp [standing, constructing, borrowing, built]
    | error raised log =>
      have answered : policy.decide shared.policy.data plan = .raised raised :=
        decide_raised (freshly_of_build_failed bump opened starts built)
      refine matched_once .settle ?_ rfl
      simp [SharedDocument.next, standing, constructing, borrowing, built, Deployment.meaning,
        Shared.document, answered]
  | snapshotRead id refreshing acted =>
    subst refreshing
    cases InstancePool.next_move acted
    simp only [effect, Option.some.injEq, Prod.mk.injEq] at took
    obtain ⟨-, rfl⟩ := took
    exact matched_once .settle rfl rfl
  | reloaded id data version reloading acted =>
    subst reloading
    cases InstancePool.next_move acted
    simp only [effect] at took
    cases ended : policy.reload data version (shared.worlds id) with
    | error => simp [ended] at took
    | ok _ world =>
      simp only [ended, Option.some.injEq, Prod.mk.injEq] at took
      obtain ⟨-, rfl⟩ := took
      exact matched_silent rfl rfl rfl
  | borrowStepped acted =>
    rw [sight_go (busy_afterBorrow _)]
    exact matched_borrow (InstancePool.next_move acted) aligned.1 took refusing
  | borrowTimedOut acted =>
    cases InstancePool.next_move acted with
    | timedOut timed empty =>
      simp only [effect, Option.some.injEq, Prod.mk.injEq] at took
      obtain ⟨-, rfl⟩ := took
      refine matched_once .giveUp ?_ rfl
      have timed : policy.slots.timed = true := timed
      simp [SharedDocument.next, standing, borrowing, Policy.afterBorrow, Deployment.meaning,
        Shared.document, timed]
  | reloadFailed id data version poisons contents reloading acted =>
    subst reloading
    cases InstancePool.next_move acted
    simp only [effect] at took
    cases ended : policy.reload data version (shared.worlds id) with
    | ok => simp [ended] at took
    | error raised world =>
      simp only [ended, Option.ite_none_right_eq_some, Option.some.injEq, Prod.mk.injEq] at took
      obtain ⟨-, -, rfl⟩ := took
      obtain ⟨earlier, -, used⟩ := loaded id (held id rfl) (healthy id rfl)
      refine matched_silent rfl ?_ rfl
      have answered : policy.decide data plan = .raised raised :=
        decide_raised (freshly_of_reload_error bump opened used ended)
      simp [standing, borrowing, Policy.afterBorrow, answered]
  | buildFailed data version acted =>
    cases InstancePool.next_move acted
    simp only [effect] at took
    cases ended : policy.build data version with
    | ok => simp [ended] at took
    | error raised log =>
      simp only [ended, Option.some.injEq, Prod.mk.injEq] at took
      obtain ⟨-, rfl⟩ := took
      refine matched_silent rfl ?_ rfl
      simp [standing, constructing, borrowing, Policy.afterBorrow, ended]
  | ensureCalled data version | ensureSkipped data version =>
    simp only [effect] at took
    cases ended : policy.build data version with
    | error => simp [ended] at took
    | ok fresh log =>
      simp only [ended, Option.some.injEq, Prod.mk.injEq] at took
      obtain ⟨-, rfl⟩ := took
      refine matched_silent rfl ?_ rfl
      simp [standing, constructing, ended]
  | tickerLocked | tickerSettled | tickerMissing | tickerStarted | tickerUnlocked =>
    simp only [effect, Option.some.injEq, Prod.mk.injEq] at took
    obtain ⟨-, rfl⟩ := took
    exact matched_silent rfl rfl rfl
  | buildReturned data version acted =>
    have creating : point = .creating := aligned
    subst creating
    cases InstancePool.next_move acted
    simp only [effect] at took
    cases ended : policy.build data version with
    | error => simp [ended] at took
    | ok fresh log =>
      simp only [ended, Option.some.injEq, Prod.mk.injEq] at took
      obtain ⟨-, rfl⟩ := took
      exact matched_silent rfl rfl rfl
  | inputRefused =>
    obtain ⟨id, mark, rfl⟩ := aligned
    have used := used_of_loan (loaded id (held id rfl)) serves
    simp only [effect] at took
    cases ended : policy.evaluate plan (shared.worlds id) with
    | ok => simp [ended] at took
    | error raised world =>
      simp only [ended, Option.ite_none_left_eq_some, Option.some.injEq, Prod.mk.injEq] at took
      obtain ⟨-, -, rfl⟩ := took
      refine matched_silent rfl ?_ rfl
      simp [standing, decide_of_error bump opened starts used ended]
  | guestEntered id mark yielded =>
    subst yielded
    have same : after = ⟨⟨.loaned, .yielded id mark⟩, request, plan, seen, answer⟩ := by
      simp only [effect] at took
      split at took <;> simp_all
    subst same
    exact matched_silent rfl rfl rfl
  | guestReturned =>
    obtain ⟨id, mark, rfl⟩ := aligned
    have used := used_of_loan (loaded id (held id rfl)) serves
    simp only [effect] at took
    cases ended : policy.evaluate plan (shared.worlds id) with
    | error => simp [ended] at took
    | ok value world =>
      simp only [ended, Option.some.injEq, Prod.mk.injEq] at took
      obtain ⟨-, rfl⟩ := took
      refine matched_silent rfl ?_ rfl
      simp [standing, decide_of_ok bump opened starts used ended]
  | guestFailed acted =>
    obtain ⟨id, mark, rfl⟩ := aligned
    cases InstancePool.next_move acted
    have used := used_of_loan (loaded id (held id rfl)) serves
    simp only [effect] at took
    cases ended : policy.evaluate plan (shared.worlds id) with
    | ok => simp [ended] at took
    | error raised world =>
      simp only [ended, Option.ite_none_right_eq_some, Option.some.injEq, Prod.mk.injEq] at took
      obtain ⟨-, -, rfl⟩ := took
      refine matched_silent rfl ?_ rfl
      simp [standing, decide_of_error bump opened starts used ended]
  | guestInterrupted => cases calmly
  | bodyLeft acted =>
    obtain ⟨id, mark, rfl⟩ := aligned
    cases InstancePool.next_move acted
    simp only [effect, Option.some.injEq, Prod.mk.injEq] at took
    obtain ⟨-, rfl⟩ := took
    exact matched_silent rfl rfl rfl
  | exitedLast =>
    simp only [effect, Option.some.injEq, Prod.mk.injEq] at took
    obtain ⟨-, rfl⟩ := took
    exact matched_silent rfl rfl rfl
  | exited =>
    simp only [effect, Option.some.injEq, Prod.mk.injEq] at took
    obtain ⟨-, rfl⟩ := took
    exact matched_once .answer rfl rfl
  | closeCalled last acted =>
    obtain ⟨last, rfl⟩ := aligned
    cases InstancePool.next_move acted
    simp only [effect, Option.some.injEq, Prod.mk.injEq] at took
    obtain ⟨-, rfl⟩ := took
    exact matched_once (.call .close) rfl rfl
  | poolCloseStepped acted =>
    simp only [effect, Option.some.injEq, Prod.mk.injEq] at took
    obtain ⟨-, rfl⟩ := took
    rw [sight_go (busy_afterPoolClose _)]
    exact matched_close (InstancePool.next_move acted) aligned
  | closedIdle =>
    simp only [effect, Option.some.injEq, Prod.mk.injEq] at took
    obtain ⟨-, rfl⟩ := took
    exact matched_once .settle rfl rfl
  | closedBusy =>
    simp only [effect, Option.some.injEq, Prod.mk.injEq] at took
    obtain ⟨-, rfl⟩ := took
    exact matched_answered .settle rfl rfl rfl rfl
  | stopSet =>
    simp only [effect, Option.some.injEq, Prod.mk.injEq] at took
    obtain ⟨-, rfl⟩ := took
    exact matched_silent rfl rfl rfl
  | threadCleared =>
    simp only [effect, Option.some.injEq, Prod.mk.injEq] at took
    obtain ⟨-, rfl⟩ := took
    exact matched_once .answer rfl rfl

section Run

variable [Fintype Thread] [DecidableEq Thread] {blank : World σ}

/-- The policy with its instances refines the document.

Proof: a call of `evaluate` is a call of the document, and every other action is matched by
it. The facts that the match needs are invariants of calm runs. -/
theorem service_refines :
    Refines (service policy blank : Machine (State Thread (Shared Thread σ) Local) (Thread × Action))
      calm (lookAt sight)
      (SharedDocument.object policy.meaning none) (lookAt SharedDocument.sight)
      (State.project Shared.document (standing policy)) := by
  refine refines_of_actions Shared.document (standing policy) rfl ?_
  intro before thread action shared' here' reached calmly acted
  have outside := outer_reachable reached
  have pooled := Policy.inner_reachable outside
  have sound := sound_reachable reached
  have aligned : (before.threads thread).policy.Aligned :=
    Policy.aligned_reachable outside thread
  rcases next_cases acted with ⟨request, rfl, called, same, result⟩ |
    ⟨taken, after, rfl, noQuery, took, called, result⟩
  · obtain ⟨records, resolving, last, idle⟩ := called_evaluate (Policy.next_move called)
    refine matched_once (.call (.query request)) ?_ rfl
    rw [result]
    simp [SharedDocument.next, standing, Shared.document, records, resolving, idle]
  · rw [result]
    refine matched_move bump opened starts took (Policy.next_move called) noQuery calmly aligned
      sound.loaded (sound.serves thread) ?_ ?_ ?_
    · exact (InstancePool.healthy_reachable pooled).2 thread
    · intro id has
      exact (InstancePool.held_sole pooled
        (show ((Policy.inner (outer before)).threads thread).held = some id from has)).1
    · intro reposting
      obtain ⟨order, -⟩ := InstancePool.closes_in_order pooled
      refine order.flag.mpr (fun isOpen => ?_)
      have quiet := (InstancePool.quiet_while_open pooled isOpen).2 thread
      change InstancePool.Point.closedPath (before.threads thread).policy.pool = false at quiet
      simp [reposting, InstancePool.Point.closedPath] at quiet

/-- What the callers of a policy see in a calm run, on a deterministic guest with a bump
allocator, they see of the document: each answer is decided at one moment of its call. -/
theorem policy_is_one_document
    {events : List (SharedDocument.Event Thread (Option Document) Request Answer)}
    {last : State Thread (Shared Thread σ) Local}
    (shown : Shows (service policy blank) calm (lookAt sight) (service policy blank).initial events
      last) : SharedDocument.Seen policy.meaning none events :=
  ⟨_, (service_refines bump opened starts).shows shown⟩

end Run

end Guest

/-- A policy of one instance on the tape. -/
def tapePolicy : Deployment Tape where
  setup := tapeSetup
  api := ⟨none, false, false, 1, "None"⟩
  entrypoints := [([], 0)]
  slots := InstancePool.singleSlot
  sized := rfl

/-- An evaluation that draws its instance before an update and reads the snapshot after
it. -/
def updatedMeanwhile : List (InstancePool.Caller × Action) :=
  InstancePool.Caller.second.does [.callEvaluate ⟨.bytes [5], none, false⟩] ++
  InstancePool.Caller.second.does (List.replicate 8 (.take .go)) ++
  InstancePool.Caller.first.does [.take (.callSetData (some (.bytes [7])))] ++
  InstancePool.Caller.first.does (List.replicate 3 (.take .go)) ++
  InstancePool.Caller.second.does (List.replicate 11 (.take .go)) ++
  InstancePool.Caller.first.does [.take .go]

/-- The tape's runtime opens. -/
theorem tape_opened : ∃ origin, Opened tapePolicy.setup origin := by
  have built := returned_of_outcome (created ⟨0, fun _ => 0⟩)
    (show (outcome (PolicyInstance.build tapeSetup none 0) []).toOption.isSome = true by
      decide +kernel)
  obtain ⟨origin, _, opened, -⟩ := opened_of_built built
  exact ⟨origin, opened⟩

/-- The tape's ticker starts. -/
theorem tape_starts (tape : Tape) :
    Ends tapePolicy.setup.guest.startTicker tape (fun _ _ => True) (fun _ _ => False) :=
  trivial

/-- The numbers in an answer of the tape. -/
def tapeNumbers : SharedDocument.Event InstancePool.Caller (Option Document) Request Answer →
    Option (List Int)
  | .returned _ (.value (.list items)) =>
    some (items.map fun | .int value => value | _ => 0)
  | _ => none

/-- The evaluation is answered from the update. -/
theorem policy_is_one_document_updated :
    ∃ events : List (SharedDocument.Event InstancePool.Caller (Option Document) Request Answer),
      SharedDocument.Seen tapePolicy.meaning none events ∧ events.length = 4 ∧
        events.filterMap tapeNumbers = [[7, 5]] := by
  have watched : ((watch (service tapePolicy (tapeBuilt none)) calm (lookAt sight)
      (service tapePolicy (tapeBuilt none)).initial updatedMeanwhile).map
        (fun seen => (seen.1.length, seen.1.filterMap tapeNumbers))) = some (4, [[7, 5]]) := by
    decide +kernel
  obtain ⟨⟨events, last⟩, executed, same⟩ := Option.map_eq_some_iff.mp watched
  obtain ⟨length, numbers⟩ := Prod.mk.inj same
  obtain ⟨origin, opened⟩ := tape_opened
  exact ⟨events, policy_is_one_document tape_bump opened tape_starts
    (watch_shows _ _ _ _ executed), length, numbers⟩

end OpaPyWasm.PolicyService
