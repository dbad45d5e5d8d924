import OpaPyWasm.InstanceOwnership
import OpaPyWasm.PoolSlots

/-!
# How many instances are live

An instance is live from the factory's return until its close. Each live
instance stands on a slot of the pool, with one exception: `_release` puts the
placeholder of a discarded instance back before it closes the instance, and in
between the instance lives beside its recycled slot. So the live instances and
the empty slots together never exceed the pool size by more than the instances
caught between that put and that close, and while the pool is open they make up
exactly that number.

The pool size bounds the live instances in the runs in which a factory call
returns only while some empty slot is not matched by an instance about to be
closed.
-/

namespace OpaPyWasm.InstancePool

open Machines Threads

variable {α : Type} {Thread : Type}

/-- The instances the factory has returned that have not been closed. -/
def Shared.live (shared : Shared) : Finset Nat :=
  (Finset.range shared.built).filter (fun id => id ∉ shared.closed)

/-- A real instance, not a placeholder or the sentinel. -/
def Slot.isPooled : Slot → Bool
  | .pooled _ => true
  | _ => false

/-- One for a thread that has an instance in hand. -/
def Point.carries (point : Point α) : Nat := if point.held.isSome then 1 else 0

/-- One for a thread that holds a slot without an instance. -/
def Point.emptyHanded : Point α → Nat
  | .drawn .placeholder => 1
  | .creating => 1
  | .restoring none _ => 1
  | _ => 0

/-- One for a release between its put of the placeholder and its close. -/
def Point.freeing : Point α → Nat
  | .closingInstance _ _ => 1
  | _ => 0

/-- One for a thread that accounts for one of the pool's slots: it holds a slot
that did not come from a sentinel, or it drained an instance. -/
def Point.tokens : Point α → Nat
  | .drawn .sentinel => 0
  | .reposting => 0
  | .drainClosing _ => 1
  | point => point.slots

/-- A slot has an instance or is empty; only a freeing thread has an instance
without a slot. -/
theorem Point.tokens_split (point : Point α) :
    point.tokens + point.freeing = point.carries + point.emptyHanded := by
  cases point with
  | drawn slot => cases slot <;> rfl
  | restoring instance? result => cases instance? <;> rfl
  | _ => rfl

/-- The entries that stand for a slot of the pool. -/
def Shared.entries (shared : Shared) : Nat :=
  shared.idle.countP Slot.isPooled + shared.idle.count .placeholder

/-- Without a sentinel every entry stands for a slot. -/
theorem entries_all {shared : Shared} (noSentinel : .sentinel ∉ shared.idle) :
    shared.entries = shared.idle.length := by
  unfold Shared.entries
  generalize shared.idle = idle at noSentinel
  induction idle with
  | nil => rfl
  | cons slot rest inductionHypothesis =>
    simp only [List.mem_cons, not_or] at noSentinel
    have shorter := inductionHypothesis noSentinel.2
    cases slot with
    | sentinel => exact absurd rfl noSentinel.1
    | placeholder | pooled =>
      simp [List.countP_cons, Slot.isPooled]
      omega

/-- Live instances are moved, not copied: between the queue, the threads, the
closed ones and the dropped ones. -/
theorem Move.keeps_carried {config : Config} {shared shared' : Shared} {point point' : Point α}
    {action : Action α} (move : Move config shared point action shared' point') :
    shared'.built + (shared.idle.countP Slot.isPooled + shared.closed.length +
        shared.dropped.length) + point.carries =
      shared.built + (shared'.idle.countP Slot.isPooled + shared'.closed.length +
        shared'.dropped.length) + point'.carries := by
  cases move with
  | slotDrawn slot rest front =>
    cases slot with
    | pooled id =>
      simp [Point.carries, Point.held, front, Slot.isPooled, List.countP_cons]
      omega
    | placeholder | sentinel => simp [Point.carries, Point.held, front, Slot.isPooled]
  | instanceDrained id rest front =>
    simp [Point.carries, Point.held, front, Slot.isPooled, List.countP_cons]
    omega
  | emptyDrained slot rest front bare =>
    cases slot with
    | pooled id => exact absurd rfl (bare id)
    | placeholder | sentinel => simp [Point.carries, Point.held, front, Slot.isPooled]
  | instanceReturned id =>
    unfold Shared.putInstance
    split <;> simp [Point.carries, Point.held, Slot.isPooled] <;> omega
  | sentinelReposted | slotRestored | slotRecycled | sentinelPosted =>
    simp only [Shared.putWakeSentinel, Shared.putPlaceholder, putNowait]
    split <;> simp [Point.carries, Point.held, Slot.isPooled]
  | _ => simp [Point.carries, Point.held] <;> omega

/-- No move makes more slots of the pool than there were; a dropped instance
keeps its slot's count. -/
theorem Move.bounds_tokens {config : Config} {shared shared' : Shared} {point point' : Point α}
    {action : Action α} (move : Move config shared point action shared' point') :
    shared'.entries + shared'.dropped.length + point'.tokens ≤
      shared.entries + shared.dropped.length + point.tokens := by
  cases move with
  | slotDrawn slot rest front =>
    simp only [Shared.entries, Point.tokens, Point.slots, Point.holdsSlot, front,
      List.countP_cons, List.count_cons]
    cases slot <;> simp only [Slot.isPooled, beq_iff_eq, reduceCtorEq, if_true, if_false] <;> omega
  | instanceDrained id rest front =>
    simp [Shared.entries, Point.tokens, front, Slot.isPooled, List.countP_cons]
    omega
  | emptyDrained slot rest front bare =>
    simp [Shared.entries, Point.tokens, front, List.countP_cons, List.count_cons]
    omega
  | instanceReturned id =>
    unfold Shared.putInstance
    split <;>
      simp [Shared.entries, Point.tokens, Point.slots, Point.holdsSlot, Slot.isPooled] <;> omega
  | sentinelReposted | slotRestored | slotRecycled | sentinelPosted =>
    simp only [Shared.entries, Shared.putWakeSentinel, Shared.putPlaceholder, putNowait]
    split <;> simp [Point.tokens, Point.slots, Point.holdsSlot, Slot.isPooled] <;> omega
  | _ => simp [Shared.entries, Point.tokens, Point.slots, Point.holdsSlot]

/-- The points at which a slot no longer stands for one of the pool's slots, or
a drain holds one. None is passed while the flag is unset. -/
def Point.closedPath : Point α → Bool
  | .drawn .sentinel => true
  | .dropping _ => true
  | .reposting => true
  | .drainClosing _ => true
  | _ => false

/-- While the pool is open, nothing puts a sentinel or takes a refused draw. -/
theorem Move.stays_quiet {config : Config} {shared shared' : Shared} {point point' : Point α}
    {action : Action α} (move : Move config shared point action shared' point')
    (order : shared.InOrder) (agreed : point.agrees shared.stage)
    (isOpen : shared'.stage = .opened) (noSentinel : .sentinel ∉ shared.idle)
    (quiet : point.closedPath = false) :
    .sentinel ∉ shared'.idle ∧ point'.closedPath = false := by
  have unset : shared.stage = .opened → shared.closedEvent = false := by
    intro stillOpen
    by_contra set
    exact order.flag.mp (by simpa using set) stillOpen
  cases move with
  | slotDrawn slot rest front =>
    simp only [front, List.mem_cons, not_or] at noSentinel
    refine ⟨noSentinel.2, ?_⟩
    cases slot with
    | sentinel => exact absurd rfl noSentinel.1
    | placeholder | pooled => rfl
  | placeholderRefused flag | instanceRefused id flag => simp [unset isOpen] at flag
  | sentinelDrawn | drawnClosed | sentinelReposted => simp [Point.closedPath] at quiet
  | slotRestored | slotRecycled =>
    refine ⟨?_, rfl⟩
    simp only [Shared.putPlaceholder_idle, putNowait]
    split <;> simp [noSentinel]
  | instanceReturned id =>
    refine ⟨?_, rfl⟩
    unfold Shared.putInstance
    split <;> simp [noSentinel]
  | instanceDrained | emptyDrained | drainedClosed =>
    have draining : shared.stage = .draining := agreed
    simp [draining] at isOpen
  | flagSet | drainEnded | sentinelPosted => simp at isOpen
  | _ => exact ⟨noSentinel, rfl⟩

/-- The factory call of a borrower returns an instance. -/
def Action.isBuilt : Action α → Bool
  | .factoryReturns _ => true
  | _ => false

/-- Only a factory return makes an instance live. -/
theorem Move.keeps_live {config : Config} {shared shared' : Shared} {point point' : Point α}
    {action : Action α} (move : Move config shared point action shared' point')
    (old : action.isBuilt = false) : shared'.live ⊆ shared.live := by
  cases move with
  | instanceBuilt => simp [Action.isBuilt] at old
  | drawnClosed id | replacedClosed id | drainedClosed id =>
    intro live alive
    simp_all [Shared.live]
  | instanceReturned =>
    unfold Shared.putInstance
    split <;> exact Finset.Subset.refl _
  | _ => exact Finset.Subset.refl _

section Counts

variable [Fintype Thread]

/-- Empty slots: idle placeholders and slots held without an instance. -/
def emptySlots (state : State Thread Shared (Point α)) : Nat :=
  state.shared.idle.count .placeholder + total Point.emptyHanded state.threads

/-- Releases caught between their put of the placeholder and their close. -/
def freeing (state : State Thread Shared (Point α)) : Nat := total Point.freeing state.threads

/-- A factory call returns only while there are more empty slots than instances
about to be closed. -/
def buildsWithRoom (state : State Thread Shared (Point α)) (label : Thread × Action α) : Prop :=
  label.2.isBuilt = true → freeing state < emptySlots state

/-- The condition compares two counts. -/
instance (state : State Thread Shared (Point α)) (label : Thread × Action α) :
    Decidable (buildsWithRoom state label) :=
  inferInstanceAs (Decidable (_ = true → _ < _))

/-- Sums of the two ways to split what all threads hold. -/
theorem total_tokens (threads : Thread → Point α) :
    total Point.tokens threads + total Point.freeing threads =
      total Point.carries threads + total Point.emptyHanded threads := by
  simp only [total, ← Finset.sum_add_distrib]
  exact Finset.sum_congr rfl (fun thread _ => (threads thread).tokens_split)

end Counts

section Live

variable [Fintype Thread] [DecidableEq Thread] {config : Config}
  {state : State Thread Shared (Point α)}

/-- Every instance that was returned and not closed is live, exactly once. -/
theorem card_live (reached : Reachable (pool config) state) :
    state.shared.live.card + state.shared.closed.length = state.shared.built := by
  have distinct : state.shared.closed.Nodup :=
    List.nodup_iff_count_le_one.mpr (closed_once reached)
  have built : state.shared.closed.toFinset ⊆ Finset.range state.shared.built := by
    intro id member
    have present : 0 < state.shared.closed.count id :=
      List.count_pos_iff.mpr (List.mem_toFinset.mp member)
    have ledger : state.shared.returned id =
        state.shared.placesOf id + total (Point.owns id) state.threads := owner_ledger reached id
    by_contra unbuilt
    simp only [Finset.mem_range] at unbuilt
    simp only [Shared.returned, unbuilt, if_false, Shared.placesOf] at ledger
    omega
  have same : state.shared.live = Finset.range state.shared.built \ state.shared.closed.toFinset := by
    ext id
    simp [Shared.live]
  have size : state.shared.closed.toFinset.card = state.shared.closed.length :=
    List.toFinset_card_of_nodup distinct
  have fits : state.shared.closed.toFinset.card ≤ (Finset.range state.shared.built).card :=
    Finset.card_le_card built
  rw [same, Finset.card_sdiff_of_subset built]
  simp only [Finset.card_range] at fits ⊢
  omega

/-- Live instances are in the queue, in the hands of threads, or dropped. -/
theorem live_places (reached : Reachable (pool config) state) :
    state.shared.live.card = state.shared.idle.countP Slot.isPooled +
      state.shared.dropped.length + total Point.carries state.threads := by
  have opening : Balances Shared.built
      (fun shared => shared.idle.countP Slot.isPooled + shared.closed.length +
        shared.dropped.length) Point.carries (start config : State Thread Shared (Point α)) := by
    simp [Balances, start, opened, total, Point.carries, Point.held, List.countP_replicate,
      Slot.isPooled]
  have ledger := balanced_reachable
    (fun _ _ _ _ _ _ acted => (next_move acted).keeps_carried) opening reached
  have live := card_live reached
  simp only [Balances] at ledger
  omega

/-- In every reachable state the live instances and the empty slots together
exceed the pool size by at most the instances about to be closed. -/
theorem live_and_empty (reached : Reachable (pool config) state) :
    state.shared.live.card + emptySlots state ≤ config.maxSize + freeing state := by
  have bound : state.shared.entries + state.shared.dropped.length +
      total Point.tokens state.threads ≤ config.maxSize := by
    have opening : (opened config).entries + (opened config).dropped.length +
        total Point.tokens (fun _ : Thread => (.outside none : Point α)) ≤ config.maxSize := by
      simp [opened, Shared.entries, total, Point.tokens, Point.slots, Point.holdsSlot,
        List.countP_replicate, Slot.isPooled]
    refine invariant (fun state : State Thread Shared (Point α) =>
      state.shared.entries + state.shared.dropped.length + total Point.tokens state.threads ≤
        config.maxSize) opening ?_ reached
    intro before label after _ bounded stepped
    obtain ⟨shared', point', acted, rfl, carried⟩ := step_total Point.tokens stepped
    have exchange := (next_move acted).bounds_tokens
    omega
  have places := live_places reached
  have split := total_tokens state.threads
  unfold Shared.entries at bound
  unfold emptySlots freeing
  omega

/-- While the pool is open there is no sentinel about. -/
theorem quiet_while_open (reached : Reachable (pool config) state)
    (isOpen : state.shared.stage = .opened) :
    .sentinel ∉ state.shared.idle ∧ ∀ thread, (state.threads thread).closedPath = false := by
  revert isOpen
  refine invariant (fun state : State Thread Shared (Point α) => state.shared.stage = .opened →
    .sentinel ∉ state.shared.idle ∧ ∀ thread, (state.threads thread).closedPath = false)
    (fun _ => ⟨?_, fun _ => rfl⟩) ?_ reached
  · simp [pool, machine, start, opened]
  · intro before label after earlier quiet stepped isOpen
    obtain ⟨order, agreed⟩ := closes_in_order earlier
    obtain ⟨shared', point', move, rfl⟩ := step_move stepped
    obtain ⟨noSentinel, others⟩ := quiet ((move.stage_forward (agreed label.1)).1 isOpen)
    have own := move.stays_quiet order (agreed label.1) isOpen noSentinel (others label.1)
    refine ⟨own.1, fun thread => ?_⟩
    by_cases acting : thread = label.1
    · subst acting
      simpa only [Function.update_self] using own.2
    · simpa only [Function.update_of_ne acting] using others thread

/-- While the pool is open the count is exact. -/
theorem live_and_empty_open (reached : Reachable (pool config) state)
    (isOpen : state.shared.stage = .opened) :
    state.shared.live.card + emptySlots state = config.maxSize + freeing state := by
  obtain ⟨noSentinel, quiet⟩ := quiet_while_open reached isOpen
  have slots := (slots_kept reached).opened isOpen
  have sameSlots : total Point.tokens state.threads = total Point.slots state.threads := by
    refine Finset.sum_congr rfl (fun thread _ => ?_)
    have calm := quiet thread
    generalize state.threads thread = point at calm
    cases point with
    | drawn slot => cases slot <;> simp_all [Point.tokens, Point.closedPath]
    | _ => simp_all [Point.tokens, Point.closedPath]
  have sameEntries := entries_all noSentinel
  have noneDropped : state.shared.dropped = [] := nothing_dropped reached (by simp [isOpen])
  have places := live_places reached
  have split := total_tokens state.threads
  unfold Shared.entries at sameEntries
  unfold emptySlots freeing
  simp only [noneDropped, List.length_nil] at places
  omega

/-- With at least as many empty slots as instances about to be closed, the pool
size bounds the live instances. -/
theorem live_le_of_room (reached : Reachable (pool config) state)
    (room : freeing state ≤ emptySlots state) : state.shared.live.card ≤ config.maxSize := by
  have bound : state.shared.live.card + emptySlots state ≤ config.maxSize + freeing state :=
    live_and_empty reached
  omega

/-- A factory return takes one empty slot and leaves the rest as it was. -/
theorem built_room {label : Thread × Action α} {after : State Thread Shared (Point α)}
    (stepped : (pool config).step state label = some after) (built : label.2.isBuilt = true) :
    freeing after = freeing state ∧ emptySlots after + 1 = emptySlots state ∧
      after.shared.stage = state.shared.stage := by
  obtain ⟨thread, action⟩ := label
  obtain ⟨shared', point', move, rfl⟩ := step_move stepped
  have freed := total_update Point.freeing state.threads thread point'
  have emptied := total_update Point.emptyHanded state.threads thread point'
  simp only at built move ⊢
  generalize state.threads thread = point at move freed emptied
  cases move with
  | instanceBuilt version =>
    simp only [Point.freeing, Point.emptyHanded] at freed emptied
    simp only [freeing, emptySlots, Shared.setInstance_idle]
    exact ⟨by omega, by omega, rfl⟩
  | _ => simp [Action.isBuilt] at built

/-- Pool size bounds the live instances in every run whose factory calls return
only with room. Where the pool is open the condition is exact: a factory return
without room leads to more live instances than the pool size.

Proof: live instances and empty slots together exceed the pool size at most by the releases
that are freeing their instance, and are exactly that many while the pool is open. So a build
with room keeps the bound, one without breaks it, and no other step adds a live instance. -/
theorem live_bounded :
    (∀ state : State Thread Shared (Point α),
      ReachableUnder (pool config) buildsWithRoom state →
        state.shared.live.card ≤ config.maxSize) ∧
      ∀ (before after : State Thread Shared (Point α)) (label : Thread × Action α),
        Reachable (pool config) before → before.shared.closedEvent = false →
        (pool config).step before label = some after → label.2.isBuilt = true →
        (after.shared.live.card ≤ config.maxSize ↔ buildsWithRoom before label) := by
  constructor
  · intro state reached
    refine under_invariant (fun state : State Thread Shared (Point α) =>
      state.shared.live.card ≤ config.maxSize) (by simp [pool, machine, start, opened, Shared.live])
      ?_ reached
    intro before label after earlier bounded roomy stepped
    have reachable : Reachable (pool config) before := reachable_of_under earlier
    cases built : label.2.isBuilt with
    | true =>
      obtain ⟨freed, emptied, _⟩ := built_room stepped built
      have room := roomy built
      exact live_le_of_room (reachable_step reachable stepped) (by omega)
    | false =>
      obtain ⟨shared', point', move, rfl⟩ := step_move stepped
      exact (Finset.card_le_card (move.keeps_live built)).trans bounded
  · intro before after label reached unset stepped built
    have isOpen : before.shared.stage = .opened := opened_of_unset reached unset
    obtain ⟨freed, emptied, same⟩ := built_room stepped built
    have count := live_and_empty_open (reachable_step reached stepped) (same.trans isOpen)
    simp only [buildsWithRoom, built, forall_const]
    omega

end Live

/-- The first thread's loan, discarded, up to the put of the placeholder. -/
def discardToRecycle : List (Caller × Action Unit) :=
  Caller.first.does [.callBorrow, .go, .go, .go, .factoryReturns 0, .go, .snapshotReturns () 0,
    .go, .discard, .exit, .go, .go, .go]

/-- The second thread's loan up to the return of its factory call. -/
def loanToBuild : List (Caller × Action Unit) :=
  Caller.second.does [.callBorrow, .go, .go, .go, .factoryReturns 0]

/-- The second thread draws the recycled slot and builds before the first thread
closes the instance it discarded. -/
def builtBeforeClose : State Caller Shared (Point Unit) :=
  (run (pool singleSlot) anything (start singleSlot) (discardToRecycle ++ loanToBuild)).getD
    (start singleSlot)

/-- A pool of size one with two live instances. -/
theorem recycled_before_closed :
    Reachable (pool singleSlot) builtBeforeClose ∧ builtBeforeClose.shared.live.card = 2 ∧
      singleSlot.maxSize = 1 :=
  ⟨executed_reaches _ anything _ _ (by decide), by decide, rfl⟩

/-- With the close before the draw the bound is kept. -/
def builtAfterClose : State Caller Shared (Point Unit) :=
  (run (pool singleSlot) buildsWithRoom (start singleSlot)
    (discardToRecycle ++ Caller.first.does [.go] ++ loanToBuild)).getD (start singleSlot)

/-- That state is reached, and its builds had room. -/
theorem builtAfterClose_reachable :
    ReachableUnder (pool singleSlot) buildsWithRoom builtAfterClose :=
  executed_reaches (pool singleSlot) buildsWithRoom _ (start singleSlot) (by decide)

/-- Two instances built, one live. -/
theorem live_bounded_after_close :
    builtAfterClose.shared.built = 2 ∧ builtAfterClose.shared.live.card ≤ 1 :=
  ⟨by decide, live_bounded.1 builtAfterClose builtAfterClose_reachable⟩

end OpaPyWasm.InstancePool
