import Mathlib.Data.Rat.Floor
import Mathlib.Order.Bounds.Defs
import Mathlib.Tactic.Linarith
import Mathlib.Tactic.FieldSimp

/-!
# Epoch deadlines

`EpochTicker` increments the epoch of the engine at instants that lie at least one
tick apart. A store that is armed with a number of ticks gets the current epoch plus
these ticks as its deadline, and traps as soon as the epoch reaches it. Seconds are
exact rationals here.

The budget is rounded up to whole ticks, but the first increment after the arming
may come at once. What the deadline grants is the time up to that increment and one
tick less than was armed.
-/

namespace OpaPyWasm.EpochDeadlines

/-- `deadline_ticks`. -/
def deadlineTicks (tickSeconds seconds : ℚ) : Nat := (max 1 ⌈seconds / tickSeconds⌉).toNat

/-- The loop of the ticker's thread: the instants of its increments, each of which
waits for a tick. -/
structure Ticker where
  tickSeconds : ℚ
  increment : Nat → ℚ
  positive : 0 < tickSeconds
  apart : ∀ index, increment index + tickSeconds ≤ increment (index + 1)

/-- An instant at which a store is armed, with the epoch then: the number of
increments so far. -/
structure Arming extends Ticker where
  instant : ℚ
  epoch : Nat
  past : ∀ index < epoch, increment index ≤ instant
  future : instant < increment epoch

/-- The epoch deadline that `set_epoch_deadline` gives the store. -/
def Arming.deadline (arming : Arming) (ticks : Nat) : Nat := arming.epoch + ticks

/-- The increment at which the epoch reaches the deadline. -/
def Arming.trapIndex (arming : Arming) (ticks : Nat) : Nat := arming.deadline ticks - 1

/-- The time from the arming to the trap. -/
def Arming.granted (arming : Arming) (ticks : Nat) : ℚ :=
  arming.increment (arming.trapIndex ticks) - arming.instant

/-- The time from the arming to the next increment. -/
def Arming.phase (arming : Arming) : ℚ := arming.increment arming.epoch - arming.instant

/-- At least one tick is armed. -/
theorem deadlineTicks_pos (tickSeconds seconds : ℚ) : 0 < deadlineTicks tickSeconds seconds := by
  unfold deadlineTicks
  omega

/-- A positive budget is rounded up to whole ticks. -/
theorem deadlineTicks_ceil {tickSeconds seconds : ℚ} (tick : 0 < tickSeconds)
    (positive : 0 < seconds) :
    (deadlineTicks tickSeconds seconds : ℤ) = ⌈seconds / tickSeconds⌉ := by
  have atLeastOne : 0 < ⌈seconds / tickSeconds⌉ := Int.ceil_pos.mpr (div_pos positive tick)
  unfold deadlineTicks
  omega

/-- The armed ticks cover the budget. -/
theorem deadlineTicks_covers {tickSeconds seconds : ℚ} (tick : 0 < tickSeconds)
    (positive : 0 < seconds) : seconds ≤ deadlineTicks tickSeconds seconds * tickSeconds := by
  have same : ((deadlineTicks tickSeconds seconds : ℤ) : ℚ) = ⌈seconds / tickSeconds⌉ := by
    rw [deadlineTicks_ceil tick positive]
  rw [Int.cast_natCast] at same
  rw [same, ← div_le_iff₀ tick]
  exact Int.le_ceil _

/-- The store traps at the first increment that brings the epoch to the deadline. -/
theorem trapIndex_least (arming : Arming) {ticks : Nat} (armed : 0 < ticks) :
    IsLeast {index | arming.deadline ticks ≤ index + 1} (arming.trapIndex ticks) := by
  unfold Arming.trapIndex Arming.deadline
  constructor
  · change arming.epoch + ticks ≤ arming.epoch + ticks - 1 + 1
    omega
  · intro index reached
    have reached : arming.epoch + ticks ≤ index + 1 := reached
    omega

/-- Each increment is at least one tick later than the one before it. -/
theorem increment_spread (ticker : Ticker) (first more : Nat) :
    ticker.increment first + more * ticker.tickSeconds ≤ ticker.increment (first + more) := by
  induction more with
  | zero => simp
  | succ more inductionHypothesis =>
    have next := ticker.apart (first + more)
    push_cast
    rw [← Nat.add_assoc]
    linarith only [inductionHypothesis, next]

/-- What an arming grants: the time to the next increment, and one tick less than was
armed. -/
theorem granted_ge (arming : Arming) {ticks : Nat} (armed : 0 < ticks) :
    arming.phase + (ticks - 1) * arming.tickSeconds ≤ arming.granted ticks := by
  obtain ⟨more, rfl⟩ : ∃ more, ticks = more + 1 := ⟨ticks - 1, by omega⟩
  have spread := increment_spread arming.toTicker arming.epoch more
  have index : arming.trapIndex (more + 1) = arming.epoch + more := rfl
  unfold Arming.granted Arming.phase
  rw [index]
  push_cast
  linarith only [spread]

/-- A deadline falls short of the budget by less than one tick. -/
theorem short_by_less_than_tick (arming : Arming) {seconds : ℚ} (positive : 0 < seconds) :
    seconds - arming.tickSeconds <
      arming.granted (deadlineTicks arming.tickSeconds seconds) := by
  have granted := granted_ge arming (deadlineTicks_pos arming.tickSeconds seconds)
  have covers := deadlineTicks_covers arming.positive positive
  have later : 0 < arming.phase := sub_pos.mpr arming.future
  linarith only [granted, covers, later]

/-- Increments exactly one tick apart, of which the first comes a given time after
the arming. -/
def regular (tickSeconds phase : ℚ) (tick : 0 < tickSeconds) (later : 0 < phase) : Arming where
  tickSeconds := tickSeconds
  increment index := phase + index * tickSeconds
  positive := tick
  apart index := by
    push_cast
    linarith only
  instant := 0
  epoch := 0
  past index before := absurd before (Nat.not_lt_zero index)
  future := by
    push_cast
    linarith only [later]

/-- On such a ticker an arming grants no more than that. -/
theorem granted_regular {tickSeconds phase : ℚ} (tick : 0 < tickSeconds) (later : 0 < phase)
    {ticks : Nat} (armed : 0 < ticks) :
    (regular tickSeconds phase tick later).granted ticks = phase + (ticks - 1) * tickSeconds := by
  obtain ⟨more, rfl⟩ : ∃ more, ticks = more + 1 := ⟨ticks - 1, by omega⟩
  have index : (regular tickSeconds phase tick later).trapIndex (more + 1) = more := by
    simp [Arming.trapIndex, Arming.deadline, regular]
  unfold Arming.granted
  rw [index]
  simp [regular]

/-- A budget, a tick, and the time from the arming to the next increment. -/
structure Timing where
  tickSeconds : ℚ
  seconds : ℚ
  phase : ℚ
  tick : 0 < tickSeconds
  budget : 0 < seconds
  later : 0 < phase

/-- A deadline is never shorter than requested, on every ticker with this tick, exactly
if the next increment leaves the part of the budget that does not fill whole ticks,
which for a whole number of ticks is one full tick.

Proof: the least that a deadline grants is the phase and one tick for each further increment,
and an arming whose increments are all on time grants no more than that. -/
theorem never_shorter_iff (timing : Timing) :
    (∀ arming : Arming, arming.tickSeconds = timing.tickSeconds → arming.phase = timing.phase →
        timing.seconds ≤ arming.granted (deadlineTicks timing.tickSeconds timing.seconds)) ↔
      timing.seconds - (⌈timing.seconds / timing.tickSeconds⌉ - 1) * timing.tickSeconds ≤
        timing.phase := by
  have armed := deadlineTicks_pos timing.tickSeconds timing.seconds
  have ticks : (⌈timing.seconds / timing.tickSeconds⌉ : ℚ) =
      deadlineTicks timing.tickSeconds timing.seconds := by
    rw [← deadlineTicks_ceil timing.tick timing.budget, Int.cast_natCast]
  rw [ticks]
  constructor
  · intro never
    have worst := never (regular timing.tickSeconds timing.phase timing.tick timing.later) rfl
      (by simp [Arming.phase, regular])
    rw [granted_regular timing.tick timing.later armed] at worst
    linarith only [worst]
  · intro enough arming sameTick samePhase
    have granted := granted_ge arming armed
    rw [sameTick, samePhase] at granted
    linarith only [enough, granted]

/-- The tick of the ticker. -/
def epochTickSeconds : ℚ := 1 / 100

/-- The budget of the docstring's example, 19 ms at a tick of 10 ms, armed a given time
before the next increment. -/
def nineteenMillis (phase : ℚ) (later : 0 < phase) : Timing where
  tickSeconds := epochTickSeconds
  seconds := 19 / 1000
  phase := phase
  tick := by norm_num [epochTickSeconds]
  budget := by norm_num
  later := later

/-- The budget is armed as two ticks. -/
theorem nineteenMillis_ticks : deadlineTicks epochTickSeconds (19 / 1000) = 2 := by
  unfold deadlineTicks epochTickSeconds
  norm_num
  rfl

/-- Two ticks cover 19 ms on every ticker of 10 ms that is armed 9 ms before an
increment, and not on every one that is armed 1 ms before it. -/
theorem never_shorter_from_nine :
    (∀ arming : Arming, arming.tickSeconds = epochTickSeconds → arming.phase = 9 / 1000 →
        19 / 1000 ≤ arming.granted 2) ∧
      ¬∀ arming : Arming, arming.tickSeconds = epochTickSeconds → arming.phase = 1 / 1000 →
        19 / 1000 ≤ arming.granted 2 := by
  have wide := never_shorter_iff (nineteenMillis (9 / 1000) (by norm_num))
  have narrow := never_shorter_iff (nineteenMillis (1 / 1000) (by norm_num))
  have whole : ⌈(19 / 1000 : ℚ) / epochTickSeconds⌉ = 2 := by
    unfold epochTickSeconds
    norm_num
  simp only [nineteenMillis, nineteenMillis_ticks, whole] at wide narrow
  constructor
  · exact wide.mpr (by norm_num [epochTickSeconds])
  · intro never
    have enough := narrow.mp never
    norm_num [epochTickSeconds] at enough

/-- A budget of 19 ms is armed as two ticks of 10 ms. Armed 1 ms before an increment it
is granted 11 ms. -/
theorem shorter_than_requested :
    ∃ arming : Arming, arming.tickSeconds = epochTickSeconds ∧
      arming.granted (deadlineTicks epochTickSeconds (19 / 1000)) = 11 / 1000 ∧
      ¬(19 / 1000 : ℚ) ≤ arming.granted (deadlineTicks epochTickSeconds (19 / 1000)) := by
  have granted : (regular epochTickSeconds (1 / 1000) (by norm_num [epochTickSeconds])
      (by norm_num)).granted 2 = 11 / 1000 := by
    rw [granted_regular _ _ (by decide)]
    norm_num [epochTickSeconds]
  rw [nineteenMillis_ticks]
  refine ⟨_, rfl, granted, ?_⟩
  rw [granted]
  norm_num

end OpaPyWasm.EpochDeadlines
