import Mathlib.Data.Fintype.Card

/-!
# Chains of successors

Every element has at most one successor. A chain may end, or come back to an element
that it has passed. A walk that remembers what it has seen stops at the end or before
the first repeated element, so on finitely many elements it always stops.

A trail is what such a walk passes. Searches along a chain look at its trail, and a
chain comes to an end exactly if its trail does.
-/

namespace Chains

universe u v
variable {α : Type u} {β : Type v}

/-- Some steps along the chain. -/
def follow (next : α → Option α) : Nat → α → Option α
  | 0, start => some start
  | steps + 1, start => (next start).bind (follow next steps)

/-- The chain ends after a number of steps. -/
inductive EndsAfter (next : α → Option α) : Nat → α → Prop
  | last {start : α} (ended : next start = none) : EndsAfter next 0 start
  | step {steps : Nat} {start following : α} (more : next start = some following)
      (rest : EndsAfter next steps following) : EndsAfter next (steps + 1) start

/-- The chain comes to an end. -/
def Terminates (next : α → Option α) (start : α) : Prop := ∃ steps, EndsAfter next steps start

/-- The chain comes to an end at an element. -/
def EndsAt (next : α → Option α) (start last : α) : Prop :=
  next last = none ∧ ∃ steps, follow next steps start = some last

/-- What a walk passes that has already seen some elements, up to the end of the chain or
the first element that it has seen. -/
inductive Trail (next : α → Option α) : List α → α → List α → Prop
  | seen {seen : List α} {start : α} (again : start ∈ seen) : Trail next seen start []
  | last {seen : List α} {start : α} (fresh : start ∉ seen) (ended : next start = none) :
      Trail next seen start [start]
  | step {seen rest : List α} {start following : α} (fresh : start ∉ seen)
      (more : next start = some following) (trail : Trail next (start :: seen) following rest) :
      Trail next seen start (start :: rest)

section Ends

variable {next : α → Option α} {start target : α} {steps : Nat}

/-- One more step at the beginning of a chain. -/
theorem follow_succ (next : α → Option α) (steps : Nat) (start : α) :
    follow next (steps + 1) start = (next start).bind (follow next steps) := rfl

/-- Steps after steps. -/
theorem follow_add (next : α → Option α) (steps more : Nat) (start : α) :
    follow next (steps + more) start = (follow next steps start).bind (follow next more) := by
  induction steps generalizing start with
  | zero => simp [Chains.follow]
  | succ steps inductionHypothesis =>
    rw [Nat.succ_add, follow_succ, follow_succ]
    cases next start with
    | none => rfl
    | some following => exact inductionHypothesis following

/-- Along a chain that ends the end comes closer. -/
theorem EndsAfter.follow {left : Nat} (ends : EndsAfter next left start)
    (reached : Chains.follow next steps start = some target) :
    steps ≤ left ∧ EndsAfter next (left - steps) target := by
  induction steps generalizing left start with
  | zero =>
    have same : start = target := Option.some.inj reached
    exact ⟨Nat.zero_le left, same ▸ ends⟩
  | succ steps inductionHypothesis =>
    obtain ⟨following, more, onwards⟩ := Option.bind_eq_some_iff.mp reached
    cases ends with
    | last ended =>
      rw [ended] at more
      cases more
    | step other rest =>
      cases Option.some.inj (more.symm.trans other)
      obtain ⟨le, further⟩ := inductionHypothesis rest onwards
      exact ⟨by omega, by rwa [Nat.add_sub_add_right]⟩

/-- The end is a fixed number of steps away. -/
theorem EndsAfter.unique {other : Nat} (first : EndsAfter next steps start)
    (second : EndsAfter next other start) : steps = other := by
  induction first generalizing other with
  | last ended =>
    cases second with
    | last => rfl
    | step more _ =>
      rw [ended] at more
      cases more
  | step more _ inductionHypothesis =>
    cases second with
    | last ended =>
      rw [ended] at more
      cases more
    | step again rest =>
      cases Option.some.inj (more.symm.trans again)
      rw [inductionHypothesis rest]

/-- A chain that comes back to where it started has no end. -/
theorem not_terminates_of_cycle (cycle : follow next (steps + 1) start = some start) :
    ¬Terminates next start := by
  rintro ⟨left, ends⟩
  obtain ⟨le, closer⟩ := ends.follow cycle
  have same := ends.unique closer
  omega

/-- A chain that reaches an end comes to an end. -/
theorem terminates_of_follow (reached : follow next steps start = some target)
    (ended : Terminates next target) : Terminates next start := by
  induction steps generalizing start with
  | zero =>
    cases Option.some.inj reached
    exact ended
  | succ steps inductionHypothesis =>
    obtain ⟨following, more, onwards⟩ := Option.bind_eq_some_iff.mp reached
    obtain ⟨left, ends⟩ := inductionHypothesis onwards
    exact ⟨left + 1, .step more ends⟩

/-- Chains that go the same way are as long. -/
theorem EndsAfter.map {next' : β → Option β} (embed : α → β)
    (same : ∀ element, next' (embed element) = (next element).map embed)
    (ends : EndsAfter next steps start) : EndsAfter next' steps (embed start) := by
  induction ends with
  | last ended => exact .last (by rw [same, ended, Option.map_none])
  | step more _ inductionHypothesis =>
    exact .step (by rw [same, more, Option.map_some]) inductionHypothesis

/-- Chains that go the same way up to a place reach the same there. -/
theorem follow_map {next' : β → Option β} (embed : α → β)
    (same : ∀ earlier < steps, ∀ element, follow next earlier start = some element →
      next' (embed element) = (next element).map embed) :
    follow next' steps (embed start) = (follow next steps start).map embed := by
  induction steps generalizing start with
  | zero => rfl
  | succ steps inductionHypothesis =>
    have here := same 0 (Nat.succ_pos steps) start rfl
    simp only [Chains.follow, here]
    cases more : next start with
    | none => rfl
    | some following =>
      simp only [Option.map_some, Option.bind_some]
      apply inductionHypothesis
      intro earlier less element reached
      exact same (earlier + 1) (Nat.succ_lt_succ less) element
        (by simp only [Chains.follow, more, Option.bind_some]; exact reached)

/-- Where every step of a chain is a step elsewhere, so are several. -/
theorem follow_embed {next' : β → Option β} (embed : α → β)
    (kept : ∀ element following, next element = some following →
      next' (embed element) = some (embed following))
    (reached : follow next steps start = some target) :
    follow next' steps (embed start) = some (embed target) := by
  induction steps generalizing start with
  | zero => rw [← Option.some.inj reached, Chains.follow]
  | succ steps inductionHypothesis =>
    obtain ⟨following, more, onwards⟩ := Option.bind_eq_some_iff.mp reached
    rw [Chains.follow, kept start following more]
    exact inductionHypothesis onwards

/-- A chain passes every step on its way. -/
theorem exists_follow_of_le {earlier : Nat} (reached : follow next steps start = some target)
    (le : earlier ≤ steps) : ∃ element, follow next earlier start = some element := by
  obtain ⟨more, rfl⟩ := Nat.exists_eq_add_of_le le
  rw [follow_add] at reached
  obtain ⟨element, passed, -⟩ := Option.bind_eq_some_iff.mp reached
  exact ⟨element, passed⟩

/-- A chain that ends passes nothing twice. -/
theorem follow_injective {other : Nat} (ended : Terminates next start)
    (reached : follow next steps start = some target)
    (again : follow next other start = some target) : steps = other := by
  obtain ⟨left, ends⟩ := ended
  obtain ⟨le, closer⟩ := ends.follow reached
  obtain ⟨le', closer'⟩ := ends.follow again
  have same := closer.unique closer'
  omega

end Ends

section Trails

variable {next : α → Option α} {seen path : List α} {start target : α}

/-- A trail avoids what was seen before. -/
theorem Trail.fresh (trail : Trail next seen start path) (member : target ∈ path) :
    target ∉ seen := by
  induction trail with
  | seen => exact absurd member List.not_mem_nil
  | last fresh =>
    rw [List.mem_singleton.mp member]
    exact fresh
  | step fresh _ _ inductionHypothesis =>
    rcases List.mem_cons.mp member with rfl | later
    · exact fresh
    · exact fun inside => inductionHypothesis later (List.mem_cons_of_mem _ inside)

/-- A walk passes what the chain reaches. -/
theorem Trail.reaches (trail : Trail next seen start path) (member : target ∈ path) :
    ∃ steps, follow next steps start = some target := by
  induction trail with
  | seen => exact absurd member List.not_mem_nil
  | last =>
    rw [List.mem_singleton.mp member]
    exact ⟨0, rfl⟩
  | step _ more _ inductionHypothesis =>
    rcases List.mem_cons.mp member with rfl | later
    · exact ⟨0, rfl⟩
    · obtain ⟨steps, reached⟩ := inductionHypothesis later
      exact ⟨steps + 1, by rw [follow_succ, more]; exact reached⟩

/-- A trail begins where the walk begins. -/
theorem Trail.head (trail : Trail next [] start path) : ∃ rest, path = start :: rest := by
  cases trail with
  | seen again => exact absurd again List.not_mem_nil
  | last => exact ⟨[], rfl⟩
  | step => exact ⟨_, rfl⟩

/-- There is one trail. -/
theorem Trail.unique {other : List α} (first : Trail next seen start path)
    (second : Trail next seen start other) : path = other := by
  induction first generalizing other with
  | seen again =>
    cases second with
    | seen => rfl
    | last fresh => exact absurd again fresh
    | step fresh => exact absurd again fresh
  | last fresh ended =>
    cases second with
    | seen again => exact absurd again fresh
    | last => rfl
    | step _ more =>
      rw [ended] at more
      cases more
  | step fresh more _ inductionHypothesis =>
    cases second with
    | seen again => exact absurd again fresh
    | last _ ended =>
      rw [ended] at more
      cases more
    | step _ again rest =>
      cases Option.some.inj (more.symm.trans again)
      rw [inductionHypothesis rest]

/-- Of the chains that go the same way as far as a walk gets, the trails are the same. -/
theorem Trail.map {next' : β → Option β} {embed : α → β} (injective : Function.Injective embed)
    (trail : Trail next seen start path)
    (same : ∀ element ∈ path, next' (embed element) = (next element).map embed) {seen' : List β}
    (exact : ∀ element, embed element ∈ seen' ↔ element ∈ seen) :
    Trail next' seen' (embed start) (path.map embed) := by
  induction trail generalizing seen' with
  | seen again => exact .seen ((exact _).mpr again)
  | @last seen start fresh ended =>
    refine .last (fun again => fresh ((exact _).mp again)) ?_
    rw [same start List.mem_cons_self, ended, Option.map_none]
  | @step seen rest start following fresh more _ inductionHypothesis =>
    have onwards : next' (embed start) = some (embed following) := by
      rw [same start List.mem_cons_self, more, Option.map_some]
    refine .step (fun again => fresh ((exact _).mp again)) onwards ?_
    apply inductionHypothesis (fun element member => same element (List.mem_cons_of_mem _ member))
    intro element
    rw [List.mem_cons, List.mem_cons, exact, injective.eq_iff]

/-- What a walk passes first is where it begins, and the rest is what it passes from there. -/
theorem Trail.cons_inv {element : α} {rest : List α}
    (trail : Trail next seen start (element :: rest)) :
    element = start ∧ element ∉ seen ∧ (rest ≠ [] → ∃ following,
      next element = some following ∧ Trail next (element :: seen) following rest) := by
  cases trail with
  | last fresh => exact ⟨rfl, fresh, fun more => absurd rfl more⟩
  | step fresh more rest => exact ⟨rfl, fresh, fun _ => ⟨_, more, rest⟩⟩

/-- A walk that has seen a later element of its trail stops before that element, also if
the link to that element was cut.

Proof: by induction on what the walk passes before that element. At each step the link is the
same, or it was cut because it leads to that element, which ends the walk. -/
theorem Trail.cut {next' : α → Option α} {before after : List α}
    (trail : Trail next seen start (before ++ target :: after))
    (same : ∀ element ∈ before,
      next' element = next element ∨ next' element = none ∧ next element = some target)
    {seen' : List α} (exact : ∀ element, element ∈ seen' ↔ element = target ∨ element ∈ seen) :
    Trail next' seen' start before := by
  induction before generalizing seen seen' start with
  | nil =>
    obtain ⟨begins, -, -⟩ := trail.cons_inv
    exact .seen ((exact start).mpr (.inl begins.symm))
  | cons element before inductionHypothesis =>
    obtain ⟨rfl, fresh, onwards⟩ := trail.cons_inv
    obtain ⟨following, more, rest⟩ := onwards (by simp)
    have apart : target ∉ element :: seen := rest.fresh (by simp)
    have unseen : element ∉ seen' := by
      intro again
      rcases (exact element).mp again with rfl | old
      · exact apart List.mem_cons_self
      · exact fresh old
    rcases same element List.mem_cons_self with kept | ⟨ended, toTarget⟩
    · refine .step unseen (kept.trans more) (inductionHypothesis rest ?_ fun other => ?_)
      · exact fun other member => same other (List.mem_cons_of_mem _ member)
      · rw [List.mem_cons, List.mem_cons, exact]
        tauto
    · obtain rfl : following = target := Option.some.inj (more.symm.trans toTarget)
      cases before with
      | nil => exact .last unseen ended
      | cons other before =>
        obtain ⟨rfl, -, further⟩ := rest.cons_inv
        obtain ⟨_, -, later⟩ := further (by simp)
        have repeated : other ∈ before ++ other :: after := by simp
        exact absurd List.mem_cons_self (later.fresh repeated)

/-- What a walk passes stands where the chain passes it. -/
theorem Trail.getElem? (trail : Trail next seen start path) {place : Nat}
    (inside : place < path.length) : path[place]? = follow next place start := by
  induction trail generalizing place with
  | seen => cases inside
  | last =>
    obtain rfl : place = 0 := by simpa using inside
    rfl
  | step _ more _ inductionHypothesis =>
    cases place with
    | zero => rfl
    | succ place =>
      rw [follow_succ, more, List.getElem?_cons_succ]
      exact inductionHypothesis (Nat.lt_of_succ_lt_succ inside)

/-- A walk leaves no way out of what it has passed and seen.

Proof: by induction on the walk. An element that was passed leads to the next one of the walk,
and the walk ends where it comes back or where there is no next one. -/
theorem Trail.closed (trail : Trail next seen start path)
    (known : ∀ element ∈ seen, ∀ following, next element = some following →
      following ∈ seen ∨ following = start) :
    start ∈ seen ++ path ∧ ∀ element ∈ seen ++ path, ∀ following,
      next element = some following → following ∈ seen ++ path := by
  induction trail with
  | @seen seen start again =>
    rw [List.append_nil]
    refine ⟨again, fun element inside following more => ?_⟩
    rcases known element inside following more with old | rfl
    · exact old
    · exact again
  | @last seen start fresh ended =>
    refine ⟨by simp, fun element inside following more => ?_⟩
    rcases List.mem_append.mp inside with old | here
    · have later := known element old following more
      simpa using later
    · rw [List.mem_singleton.mp here, ended] at more
      cases more
  | @step seen rest start _ fresh more _ inductionHypothesis =>
    have shifted : ∀ element : α, element ∈ seen ++ start :: rest ↔ element ∈ start :: seen ++ rest := by
      intro element
      simp only [List.mem_append, List.mem_cons]
      tauto
    simp only [shifted]
    refine ⟨by simp, (inductionHypothesis ?_).2⟩
    intro element inside following onwards
    rcases List.mem_cons.mp inside with rfl | old
    · exact .inr (Option.some.inj (onwards.symm.trans more))
    · rcases known element old following onwards with before | rfl
      · exact .inl (List.mem_cons_of_mem _ before)
      · exact .inl List.mem_cons_self

/-- A walk from the beginning passes everything on the chain. -/
theorem Trail.mem_iff (trail : Trail next [] start path) :
    target ∈ path ↔ ∃ steps, follow next steps start = some target := by
  constructor
  · exact trail.reaches
  · rintro ⟨steps, reached⟩
    obtain ⟨begun, closed⟩ := trail.closed (fun _ inside => absurd inside List.not_mem_nil)
    rw [List.nil_append] at begun closed
    clear trail
    induction steps generalizing start with
    | zero => exact Option.some.inj reached ▸ begun
    | succ steps inductionHypothesis =>
      obtain ⟨following, more, onwards⟩ := Option.bind_eq_some_iff.mp reached
      exact inductionHypothesis onwards (closed start begun following more)

end Trails

section Walks

variable [DecidableEq α] (next : α → Option α)

/-- A walk, with a bound on its steps. -/
def walk : Nat → List α → α → List α
  | 0, _, _ => []
  | left + 1, seen, start =>
    if start ∈ seen then []
    else
      match next start with
      | none => [start]
      | some following => start :: walk left (start :: seen) following

/-- A search for the first element that passes a test, with a bound on its steps. -/
def search (test : α → Bool) : Nat → List α → α → Option α
  | 0, _, _ => none
  | left + 1, seen, start =>
    if start ∈ seen then none
    else if test start then some start
    else
      match next start with
      | none => none
      | some following => search test left (start :: seen) following

variable {next} {seen path : List α} {start : α}

/-- A walk with enough steps passes the trail. -/
theorem walk_eq (trail : Trail next seen start path) {left : Nat} (enough : path.length ≤ left) :
    walk next left seen start = path := by
  induction trail generalizing left with
  | seen again => cases left <;> simp [walk, again]
  | last fresh ended =>
    obtain ⟨left, rfl⟩ : ∃ more, left = more + 1 := ⟨left - 1, by simp at enough; omega⟩
    simp [walk, fresh, ended]
  | step fresh more _ inductionHypothesis =>
    obtain ⟨left, rfl⟩ : ∃ more, left = more + 1 := ⟨left - 1, by simp at enough; omega⟩
    have rest := inductionHypothesis (Nat.le_of_succ_le_succ enough)
    simp [walk, fresh, more, rest]

/-- A search with enough steps finds the first element of the trail that passes. -/
theorem search_eq (test : α → Bool) (trail : Trail next seen start path) {left : Nat}
    (enough : path.length ≤ left) : search next test left seen start = path.find? test := by
  induction trail generalizing left with
  | seen again => cases left <;> simp [search, again]
  | @last _ start fresh ended =>
    obtain ⟨left, rfl⟩ : ∃ more, left = more + 1 := ⟨left - 1, by simp at enough; omega⟩
    cases passes : test start <;> simp [search, fresh, ended, passes]
  | @step _ _ start _ fresh more _ inductionHypothesis =>
    obtain ⟨left, rfl⟩ : ∃ more, left = more + 1 := ⟨left - 1, by simp at enough; omega⟩
    have rest := inductionHypothesis (Nat.le_of_succ_le_succ enough)
    cases passes : test start <;> simp [search, fresh, more, passes, rest]

variable [Fintype α]

/-- Every walk stops before it has passed more than there is. -/
theorem exists_trail (next : α → Option α) (start : α) (seen : List α) (distinct : seen.Nodup) :
    ∃ path, Trail next seen start path ∧ path.length + seen.length ≤ Fintype.card α := by
  generalize left : Fintype.card α - seen.length = room
  have bounded : seen.length ≤ Fintype.card α := distinct.length_le_card
  induction room generalizing seen start with
  | zero =>
    by_cases again : start ∈ seen
    · exact ⟨[], .seen again, by simpa using bounded⟩
    · have longer : (start :: seen).Nodup := List.nodup_cons.mpr ⟨again, distinct⟩
      have tooLong := longer.length_le_card
      rw [List.length_cons] at tooLong
      omega
  | succ room inductionHypothesis =>
    by_cases again : start ∈ seen
    · exact ⟨[], .seen again, by simpa using bounded⟩
    · have longer : (start :: seen).Nodup := List.nodup_cons.mpr ⟨again, distinct⟩
      have within := longer.length_le_card
      rw [List.length_cons] at within
      cases more : next start with
      | none => exact ⟨[start], .last again more, by rw [List.length_singleton]; omega⟩
      | some following =>
        obtain ⟨rest, trail, short⟩ := inductionHypothesis following (start :: seen) longer
          (by rw [List.length_cons]; omega) within
        rw [List.length_cons] at short
        exact ⟨start :: rest, .step again more trail, by rw [List.length_cons]; omega⟩

/-- The trail of a chain. -/
def trail (next : α → Option α) (start : α) : List α := walk next (Fintype.card α) [] start

/-- The first element of a chain that passes a test. -/
def first (next : α → Option α) (test : α → Bool) (start : α) : Option α :=
  search next test (Fintype.card α) [] start

/-- The walk is a trail: as many steps as there are elements are enough for it. -/
theorem trail_spec (next : α → Option α) (start : α) : Trail next [] start (trail next start) := by
  obtain ⟨path, passed, short⟩ := exists_trail next start [] List.nodup_nil
  have same : trail next start = path := walk_eq passed (by simpa using short)
  rwa [same]

/-- The bound on the steps of a search is never met. -/
theorem first_eq (next : α → Option α) (test : α → Bool) (start : α) :
    first next test start = (trail next start).find? test := by
  obtain ⟨path, passed, short⟩ := exists_trail next start [] List.nodup_nil
  have enough : path.length ≤ Fintype.card α := by simpa using short
  rw [(trail_spec next start).unique passed]
  exact search_eq test passed enough

/-- The trail of a chain has what the chain reaches. -/
theorem mem_trail_iff {target : α} :
    target ∈ trail next start ↔ ∃ steps, follow next steps start = some target :=
  (trail_spec next start).mem_iff

/-- A search finds nothing if nothing on the chain passes the test. -/
theorem first_eq_none_iff {test : α → Bool} :
    first next test start = none ↔
      ∀ steps element, follow next steps start = some element → test element = false := by
  rw [first_eq, List.find?_eq_none]
  constructor
  · intro rejected steps element reached
    exact Bool.eq_false_iff.mpr (rejected element (mem_trail_iff.mpr ⟨steps, reached⟩))
  · intro rejected element member
    obtain ⟨steps, reached⟩ := mem_trail_iff.mp member
    exact Bool.eq_false_iff.mp (rejected steps element reached)

/-- A search finds the element that passes the test after the fewest steps.

Proof: the search is a search of the trail, and the trail has at each index what the chain
reaches in so many steps. Of two elements that pass, the one with fewer steps is found. -/
theorem first_eq_some_iff {test : α → Bool} {target : α} :
    first next test start = some target ↔ test target = true ∧ ∃ steps,
      follow next steps start = some target ∧ ∀ earlier < steps, ∀ element,
        follow next earlier start = some element → test element = false := by
  have spec := trail_spec next start
  have place : ∀ {index : Nat} (inside : index < (trail next start).length),
      follow next index start = some (trail next start)[index] :=
    fun inside => by rw [← spec.getElem? inside, List.getElem?_eq_getElem inside]
  rw [first_eq]
  constructor
  · intro found
    obtain ⟨passes, index, inside, here, before⟩ := List.find?_eq_some_iff_getElem.mp found
    refine ⟨passes, index, here ▸ place inside, fun earlier less element reached => ?_⟩
    have known := (place (Nat.lt_trans less inside)).symm.trans reached
    have rejected := before earlier less
    rw [Option.some.inj known] at rejected
    simpa using rejected
  · rintro ⟨passes, steps, reached, before⟩
    cases found : (trail next start).find? test with
    | none =>
      have rejected := List.find?_eq_none.mp found target (mem_trail_iff.mpr ⟨steps, reached⟩)
      exact absurd passes rejected
    | some other =>
      obtain ⟨otherPasses, index, inside, here, beforeIndex⟩ := List.find?_eq_some_iff_getElem.mp found
      have otherReached : follow next index start = some other := here ▸ place inside
      rcases Nat.lt_trichotomy index steps with sooner | rfl | later
      · rw [before index sooner other otherReached] at otherPasses
        cases otherPasses
      · exact otherReached.symm.trans reached
      · have known := (place (Nat.lt_trans later inside)).symm.trans reached
        have rejected := beforeIndex steps later
        rw [Option.some.inj known, passes] at rejected
        cases rejected

/-- A search finds elsewhere what it finds on a chain whose steps are steps there. -/
theorem first_embed [DecidableEq β] [Fintype β] {next' : β → Option β} (embed : α → β)
    {test : β → Bool} {target : α}
    (kept : ∀ element following, next element = some following →
      next' (embed element) = some (embed following))
    (found : first next (test ∘ embed) start = some target) :
    first next' test (embed start) = some (embed target) := by
  obtain ⟨passes, steps, reached, before⟩ := first_eq_some_iff.mp found
  refine first_eq_some_iff.mpr ⟨passes, steps, follow_embed embed kept reached, ?_⟩
  intro earlier less element passed
  obtain ⟨original, here⟩ := exists_follow_of_le reached (Nat.le_of_lt less)
  cases Option.some.inj (passed.symm.trans (follow_embed embed kept here))
  exact before earlier less original here

/-- A search finds the same on a chain that goes the same way elsewhere. -/
theorem first_map [DecidableEq β] [Fintype β] {next' : β → Option β} (embed : α → β)
    (test : β → Bool)
    (same : ∀ steps element, follow next steps start = some element →
      next' (embed element) = (next element).map embed) :
    first next' test (embed start) = (first next (test ∘ embed) start).map embed := by
  have follows : ∀ steps, follow next' steps (embed start) = (follow next steps start).map embed :=
    fun steps => follow_map embed (fun earlier _ => same earlier)
  cases found : first next (test ∘ embed) start with
  | none =>
    apply first_eq_none_iff.mpr
    intro steps element reached
    rw [follows] at reached
    obtain ⟨original, here, rfl⟩ := Option.map_eq_some_iff.mp reached
    exact first_eq_none_iff.mp found steps original here
  | some target =>
    obtain ⟨passes, steps, reached, before⟩ := first_eq_some_iff.mp found
    refine first_eq_some_iff.mpr ⟨passes, steps, by rw [follows, reached]; rfl, ?_⟩
    intro earlier less element passed
    rw [follows] at passed
    obtain ⟨original, here, rfl⟩ := Option.map_eq_some_iff.mp passed
    exact before earlier less original here

end Walks

end Chains
