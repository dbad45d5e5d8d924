import OpaPyWasm.CloseProtocol

/-!
# Slots of the pool

A borrower that has drawn a queue entry holds a slot until it puts an entry
back. While the closed flag is unset, idle entries and held slots together are
exactly the pool size: every way out of `borrow` puts back one entry for the one
it drew, and the put finds room. From the drain on, entries only disappear, and
the bound remains until the wake sentinel is posted.
-/

namespace OpaPyWasm.InstancePool

open Machines Threads

variable {α : Type} {Thread : Type}

/-- A borrower holds a slot from its queue get to its queue put. -/
def Point.holdsSlot : Point α → Bool
  | .drawn _ => true
  | .dropping _ => true
  | .reposting => true
  | .creating => true
  | .counting _ => true
  | .refreshing _ => true
  | .comparing _ _ _ => true
  | .reloading _ _ _ => true
  | .yielded _ _ => true
  | .releasing _ _ _ => true
  | .recreating _ _ => true
  | .restoring _ _ => true
  | .returning _ _ => true
  | _ => false

/-- One for a thread that holds a slot. -/
def Point.slots (point : Point α) : Nat := if point.holdsSlot = true then 1 else 0

/-- The entry that a thread at a `_put_slot` call is about to put. -/
def Point.putting : Point α → Option Slot
  | .restoring _ _ => some .placeholder
  | .returning id _ => some (.pooled id)
  | _ => none

/-- A thread about to put an entry still holds the slot it drew. -/
theorem Point.slots_of_putting {point : Point α} {slot : Slot}
    (putting : point.putting = some slot) : point.slots = 1 := by
  cases point <;> simp_all [Point.putting, Point.slots, Point.holdsSlot]

/-- A put that finds room adds one entry. -/
theorem putNowait_room {config : Config} {idle : List Slot} (room : idle.length < config.maxSize)
    (slot : Slot) : putNowait config idle slot = idle ++ [slot] := by
  simp [putNowait, room]

/-- No put adds more than one entry. -/
theorem length_putNowait_le (config : Config) (idle : List Slot) (slot : Slot) :
    (putNowait config idle slot).length ≤ idle.length + 1 := by
  unfold putNowait
  split <;> simp

/-- Returning an instance adds at most one entry. -/
theorem length_putInstance_le (config : Config) (shared : Shared) (id : Nat) :
    (shared.putInstance config id).idle.length ≤ shared.idle.length + 1 := by
  unfold Shared.putInstance
  split <;> simp

/-- Every put of `_put_slot` that finds room appends its entry. -/
theorem Move.puts_entry {config : Config} {shared shared' : Shared} {point point' : Point α}
    {action : Action α} (move : Move config shared point action shared' point') {slot : Slot}
    (putting : point.putting = some slot) (room : shared.idle.length < config.maxSize) :
    shared'.idle = shared.idle ++ [slot] := by
  cases move with
  | slotRestored | slotRecycled =>
    obtain rfl : Slot.placeholder = slot := Option.some.inj putting
    simp [putNowait_room room]
  | instanceReturned returned =>
    obtain rfl : Slot.pooled returned = slot := Option.some.inj putting
    simp [Shared.putInstance, room]
  | _ => simp [Point.putting] at putting

/-- Before the sentinel is posted, no move adds an entry without giving up a
slot. -/
theorem Move.bounds_slots {config : Config} {shared shared' : Shared} {point point' : Point α}
    {action : Action α} (move : Move config shared point action shared' point')
    (unposted : shared'.stage ≠ .posted) :
    shared'.idle.length + point'.slots ≤ shared.idle.length + point.slots := by
  cases move with
  | slotDrawn slot rest front => simp [Point.slots, Point.holdsSlot, front]
  | instanceDrained id rest front | emptyDrained slot rest front =>
    simp [Point.slots, Point.holdsSlot, front]
  | slotRestored | slotRecycled =>
    simpa [Point.slots, Point.holdsSlot] using length_putNowait_le config shared.idle .placeholder
  | sentinelReposted =>
    simpa [Point.slots, Point.holdsSlot] using length_putNowait_le config shared.idle .sentinel
  | instanceReturned id =>
    simpa [Point.slots, Point.holdsSlot] using length_putInstance_le config shared id
  | sentinelPosted => exact absurd rfl unposted
  | _ => simp [Point.slots, Point.holdsSlot]

/-- While the pool is open, a move that finds room for its put exchanges exactly
one entry for one slot. -/
theorem Move.keeps_slots {config : Config} {shared shared' : Shared} {point point' : Point α}
    {action : Action α} (move : Move config shared point action shared' point')
    (agreed : point.agrees shared.stage) (unclosed : shared'.stage = .opened)
    (bounded : shared.idle.length + point.slots ≤ config.maxSize) :
    shared'.idle.length + point'.slots = shared.idle.length + point.slots := by
  cases move with
  | slotDrawn slot rest front => simp [Point.slots, Point.holdsSlot, front]
  | instanceDrained | emptyDrained =>
    have draining : shared.stage = .draining := agreed
    simp [draining] at unclosed
  | slotRestored | slotRecycled | sentinelReposted =>
    have room : shared.idle.length < config.maxSize :=
      Nat.lt_of_succ_le (by simpa [Point.slots, Point.holdsSlot] using bounded)
    simp [Point.slots, Point.holdsSlot, putNowait_room room]
  | instanceReturned id =>
    have room : shared.idle.length < config.maxSize :=
      Nat.lt_of_succ_le (by simpa [Point.slots, Point.holdsSlot] using bounded)
    simp [Point.slots, Point.holdsSlot, Shared.putInstance, room]
  | sentinelPosted => simp at unclosed
  | _ => simp [Point.slots, Point.holdsSlot]

/-- A release that is about to put its healthy instance back. -/
def Point.isReturning : Point α → Bool
  | .returning _ _ => true
  | _ => false

/-- A returning thread is about to put an entry. -/
theorem Point.putting_of_returning {point : Point α} (returning : point.isReturning = true) :
    ∃ slot, point.putting = some slot := by
  cases point <;> simp_all [Point.isReturning, Point.putting]

/-- An instance is dropped only by a return that finds the queue full. -/
theorem Move.drops_full {config : Config} {shared shared' : Shared} {point point' : Point α}
    {action : Action α} (move : Move config shared point action shared' point')
    (room : point.isReturning = true → shared.idle.length < config.maxSize) :
    shared'.dropped = shared.dropped := by
  cases move with
  | instanceReturned id => simp [Shared.putInstance, room rfl]
  | _ => rfl

section Conservation

variable [Fintype Thread] [DecidableEq Thread] {config : Config}
  {state : State Thread Shared (Point α)}

/-- Idle entries and held slots together: the pool size while the pool is open,
and no more until the sentinel is posted. -/
structure SlotsKept (config : Config) (state : State Thread Shared (Point α)) : Prop where
  opened : state.shared.stage = .opened →
    state.shared.idle.length + total Point.slots state.threads = config.maxSize
  unposted : state.shared.stage ≠ .posted →
    state.shared.idle.length + total Point.slots state.threads ≤ config.maxSize

/-- The slot law of every reachable state. -/
theorem slots_kept (reached : Reachable (pool config) state) : SlotsKept config state := by
  have opening : SlotsKept config (start config : State Thread Shared (Point α)) := by
    constructor <;> simp [start, opened, total, Point.slots, Point.holdsSlot]
  refine invariant (SlotsKept config) opening ?_ reached
  intro before label after earlier kept stepped
  have agreed : (before.threads label.1).agrees before.shared.stage :=
    (closes_in_order earlier).2 label.1
  obtain ⟨shared', point', acted, rfl, carried⟩ := step_total Point.slots stepped
  have move := next_move acted
  have own : (before.threads label.1).slots ≤ total Point.slots before.threads :=
    weight_le_total Point.slots before.threads label.1
  constructor
  · intro stillOpen
    have wasOpen : before.shared.stage = .opened := (move.stage_forward agreed).1 stillOpen
    have balance := kept.opened wasOpen
    have exchange := move.keeps_slots agreed stillOpen (by omega)
    omega
  · intro unposted
    have bound := kept.unposted ((move.stage_forward agreed).2 unposted)
    have exchange := move.bounds_slots unposted
    omega

/-- A thread about to put an entry finds room until the sentinel is posted. -/
theorem put_room (reached : Reachable (pool config) state)
    (unposted : state.shared.stage ≠ .posted) {thread : Thread} {slot : Slot}
    (putting : (state.threads thread).putting = some slot) :
    state.shared.idle.length < config.maxSize := by
  have bound := (slots_kept reached).unposted unposted
  have own : (state.threads thread).slots ≤ total Point.slots state.threads :=
    weight_le_total Point.slots state.threads thread
  have holds : (state.threads thread).slots = 1 := Point.slots_of_putting putting
  omega

/-- A returned instance finds room until the sentinel is posted. -/
theorem return_room (reached : Reachable (pool config) state)
    (unposted : state.shared.stage ≠ .posted) {thread : Thread}
    (returning : (state.threads thread).isReturning = true) :
    state.shared.idle.length < config.maxSize := by
  obtain ⟨slot, putting⟩ := Point.putting_of_returning returning
  exact put_room reached unposted putting

/-- No instance is dropped before the sentinel is posted: until then the put of
a returned instance finds room. -/
theorem nothing_dropped (reached : Reachable (pool config) state)
    (unposted : state.shared.stage ≠ .posted) : state.shared.dropped = [] := by
  revert unposted
  refine invariant (fun state : State Thread Shared (Point α) =>
    state.shared.stage ≠ .posted → state.shared.dropped = []) (fun _ => rfl) ?_ reached
  intro before label after earlier noneBefore stepped unposted
  have agreed : (before.threads label.1).agrees before.shared.stage :=
    (closes_in_order earlier).2 label.1
  obtain ⟨shared', point', move, rfl⟩ := step_move stepped
  have wasUnposted : before.shared.stage ≠ .posted := (move.stage_forward agreed).2 unposted
  exact (move.drops_full (return_room earlier wasUnposted)).trans (noneBefore wasUnposted)

/-- The stage of a pool whose flag is unset. -/
theorem opened_of_unset (reached : Reachable (pool config) state)
    (unset : state.shared.closedEvent = false) : state.shared.stage = .opened := by
  by_contra moved
  have set : state.shared.closedEvent = true := (closes_in_order reached).1.flag.mpr moved
  simp [set] at unset

/-- Slot conservation while open. In every reachable state in which no `close`
call has set the flag, idle entries and held slots make up the pool size; every
put of `_put_slot` appends its entry, so none is dropped; and a borrower blocked
on the empty queue has as many other borrowers holding slots as the pool has
slots.

Proof: every step moves one slot between the queue and a thread. What a thread is about to put
has a place in the queue, since the slot it holds is not counted there. -/
theorem slots_conserved (reached : Reachable (pool config) state)
    (unset : state.shared.closedEvent = false) :
    state.shared.idle.length +
        (Finset.univ.filter (fun thread => (state.threads thread).holdsSlot = true)).card =
      config.maxSize ∧
    (∀ thread action after slot, (state.threads thread).putting = some slot →
      (pool config).step state (thread, action) = some after →
      after.shared.idle = state.shared.idle ++ [slot]) ∧
    (∀ thread, state.threads thread = .waiting → state.shared.idle = [] →
      (Finset.univ.filter (fun other =>
        other ≠ thread ∧ (state.threads other).holdsSlot = true)).card = config.maxSize) := by
  have isOpen : state.shared.stage = .opened := opened_of_unset reached unset
  have counted : total Point.slots state.threads =
      (Finset.univ.filter (fun thread => (state.threads thread).holdsSlot = true)).card :=
    total_indicator (fun point : Point α => point.holdsSlot = true) state.threads
  have balance := (slots_kept reached).opened isOpen
  refine ⟨by omega, ?_, ?_⟩
  · intro thread action after slot putting stepped
    obtain ⟨shared', point', move, rfl⟩ := step_move stepped
    exact move.puts_entry putting (put_room reached (by simp [isOpen]) putting)
  · intro thread waiting empty
    have others : (Finset.univ.filter (fun other =>
          other ≠ thread ∧ (state.threads other).holdsSlot = true)) =
        Finset.univ.filter (fun other => (state.threads other).holdsSlot = true) := by
      refine Finset.filter_congr (fun other _ => ⟨And.right, fun holds => ⟨?_, holds⟩⟩)
      rintro rfl
      simp [waiting, Point.holdsSlot] at holds
    rw [others]
    simpa [empty, counted] using balance

/-- The first thread is about to put back the placeholder of a failed build, and
the second waits. -/
def rebuilding : State Caller Shared (Point Unit) :=
  (run (pool singleSlot) anything (start singleSlot)
    (Caller.first.does [.callBorrow, .go] ++ Caller.second.does [.callBorrow, .go] ++
      Caller.first.does [.go, .go, .factoryRaises])).getD (start singleSlot)

/-- That state is reached. -/
theorem rebuilding_reachable : Reachable (pool singleSlot) rebuilding :=
  executed_reaches (pool singleSlot) anything _ (start singleSlot) (by decide)

/-- The slot of the failed build is accounted for while the other thread waits
for it. -/
theorem slots_conserved_rebuilding :
    rebuilding.threads .first = .restoring none .failed ∧
      rebuilding.threads .second = .waiting ∧
      (Finset.univ.filter (fun other =>
        other ≠ .second ∧ (rebuilding.threads other).holdsSlot = true)).card = 1 :=
  ⟨by decide, by decide,
    (slots_conserved rebuilding_reachable (by decide)).2.2 .second (by decide) (by decide)⟩

end Conservation

end OpaPyWasm.InstancePool
