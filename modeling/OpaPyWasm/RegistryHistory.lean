import OpaPyWasm.Library.Histories
import OpaPyWasm.BuiltinRegistry

/-!
# The registry is linearizable

The calls of the registry are those of a registry that is called by one thread after
another. A call settles where it refuses, reads the published dictionary or publishes its
own. An update that was admitted under the lock is still admitted when it publishes, since
nothing else was published in between.
-/

namespace OpaPyWasm.BuiltinRegistry

open Machines Threads Histories

variable {Thread Name Fn : Type} [DecidableEq Name]

/-- What the caller of a call gets: a snapshot is the contents of the dictionary. -/
inductive Outcome (Name Fn : Type) where
  | done
  | raised (text : String)
  | taken (builtins : Builtins Name Fn)

/-- An answer read off the dictionaries. -/
def Answer.outcome (dicts : Nat → Builtins Name Fn) : Answer → Outcome Name Fn
  | .done => .done
  | .raised text => .raised text
  | .taken reference => .taken (dicts reference)

/-- A call of a registry that nobody else calls. -/
def applied (config : Config Name Fn) (builtins : Builtins Name Fn)
    (operation : Operation Name Fn) : Builtins Name Fn × Outcome Name Fn :=
  match operation.uncallable config with
  | some text => (builtins, .raised text)
  | none =>
    match operation with
    | .snapshot => (builtins, .taken builtins)
    | .update update =>
      match update.refusal config builtins with
      | some text => (builtins, .raised text)
      | none => (update.apply builtins, .done)

/-- An event of the registry as an event of calls. -/
def Event.view : Event Thread Name Fn → Histories.Event Thread (Operation Name Fn) Answer
  | .called thread operation => .called thread operation
  | .settled thread operation answer => .settled thread operation answer
  | .returned thread operation answer => .returned thread operation answer

/-- The calls of the registry so far. -/
def Shared.calls (shared : Shared Thread Name Fn) :
    List (Histories.Event Thread (Operation Name Fn) Answer) :=
  shared.history.map Event.view

/-- How far a thread has come with its call. -/
def Point.standing : Point Name Fn → Standing (Operation Name Fn) Answer
  | .outside _ => .resting
  | .called operation | .locked operation => .pending operation
  | .checked update | .copied update _ | .changed update _ => .pending (.update update)
  | .leaving operation answer | .returning operation answer => .settled operation answer

section Sequentially

variable {config : Config Name Fn} {builtins : Builtins Name Fn}

/-- A call that the policy refuses raises and changes nothing. -/
theorem applied_uncallable {operation : Operation Name Fn} {text : String}
    (uncallable : operation.uncallable config = some text) :
    applied config builtins operation = (builtins, .raised text) := by
  simp only [applied, uncallable]

/-- A snapshot takes the builtins as they are. -/
theorem applied_snapshot :
    applied config builtins .snapshot = (builtins, .taken builtins) := rfl

/-- An update that the registry refuses raises and changes nothing. -/
theorem applied_refused {update : Update Name Fn} {text : String}
    (callable : (Operation.update update).uncallable config = none)
    (refusal : update.refusal config builtins = some text) :
    applied config builtins (.update update) = (builtins, .raised text) := by
  simp only [applied, callable, refusal]

/-- Any other update is done. -/
theorem applied_admitted {update : Update Name Fn}
    (callable : (Operation.update update).uncallable config = none)
    (fine : update.refusal config builtins = none) :
    applied config builtins (.update update) = (update.apply builtins, .done) := by
  simp only [applied, callable, fine]

variable (config builtins) in
/-- A call raises and changes nothing, takes a snapshot, or is an update that is done. -/
theorem applied_cases (operation : Operation Name Fn) :
    (∃ text, applied config builtins operation = (builtins, .raised text)) ∨
      operation = .snapshot ∧ applied config builtins operation = (builtins, .taken builtins) ∨
      ∃ update, operation = .update update ∧
        applied config builtins operation = (update.apply builtins, .done) := by
  cases uncallable : operation.uncallable config with
  | some text => exact .inl ⟨text, applied_uncallable uncallable⟩
  | none =>
    cases operation with
    | snapshot => exact .inr (.inl ⟨rfl, applied_snapshot⟩)
    | update update =>
      cases refusal : update.refusal config builtins with
      | some text => exact .inl ⟨text, applied_refused uncallable refusal⟩
      | none => exact .inr (.inr ⟨update, rfl, applied_admitted uncallable refusal⟩)

/-- A call that raises leaves the registry as it was. -/
theorem applied_raised {operation : Operation Name Fn} {text : String}
    (raised : (applied config builtins operation).2 = .raised text) :
    (applied config builtins operation).1 = builtins := by
  rcases applied_cases config builtins operation with
    ⟨text', same⟩ | ⟨-, same⟩ | ⟨update, -, same⟩
  · rw [same]
  · rw [same]
  · rw [same] at raised
    cases raised

/-- Whether an update leaves its name registered. -/
def Update.registers : Update Name Fn → Bool
  | .register _ _ _ => true
  | .unregister _ => false

/-- An update leaves its name as it says. -/
theorem Update.apply_own (update : Update Name Fn) (builtins : Builtins Name Fn) :
    (update.apply builtins update.name).isSome = update.registers := by
  cases update <;> simp [Update.apply, Update.name, Update.registers]

/-- Whether a name is registered is changed by an update of this name alone, one that is done
and says so. -/
theorem applied_keeps_name {name : Name} {present : Bool} (operation : Operation Name Fn)
    (before : (builtins name).isSome = present) :
    ((applied config builtins operation).1 name).isSome = present ∨
      ∃ update, operation = .update update ∧ update.name = name ∧ update.registers ≠ present ∧
        (applied config builtins operation).2 = .done := by
  rcases applied_cases config builtins operation with
    ⟨text', same⟩ | ⟨-, same⟩ | ⟨update, called, same⟩
  · exact .inl (by rwa [same])
  · exact .inl (by rwa [same])
  · rw [same]
    by_cases own : name = update.name
    · subst own
      by_cases agrees : update.registers = present
      · exact .inl ((update.apply_own builtins).trans agrees)
      · exact .inr ⟨update, called, rfl, agrees, rfl⟩
    · exact .inl (by simpa only [update.apply_other builtins own] using before)

/-- An update that is done left its name as it says. -/
theorem applied_updates {after : Builtins Name Fn} {update : Update Name Fn}
    (effect : applied config builtins (.update update) = (after, .done)) :
    (after update.name).isSome = update.registers := by
  rcases applied_cases config builtins (.update update) with
    ⟨text, same⟩ | ⟨called, -⟩ | ⟨update', called, same⟩
  · cases same.symm.trans effect
  · cases called
  · cases called
    cases same.symm.trans effect
    exact update.apply_own builtins

/-- In a sequential run a name stays as an update left it until a call changes it to the
contrary.

Proof: split the run behind the update. The update establishes what the rest of the run
keeps, call by call, unless one of its calls is such a change. -/
theorem updated_until_changed {initial finish : Builtins Name Fn} {update : Update Name Fn}
    {later earlier : List (Operation Name Fn × Outcome Name Fn)}
    (run : Sequential (applied config) initial
      (later ++ (.update update, .done) :: earlier) finish) :
    (finish update.name).isSome = update.registers ∨
      ∃ other : Update Name Fn, other.name = update.name ∧ other.registers ≠ update.registers ∧
        (.update other, .done) ∈ later := by
  by_cases changed : ∃ other : Update Name Fn, other.name = update.name ∧
      other.registers ≠ update.registers ∧ (.update other, .done) ∈ later
  · exact .inr changed
  obtain ⟨middle, before, after⟩ := run.split
  left
  refine after.keeps (fun builtins => (builtins update.name).isSome = update.registers) ?_ ?_
  · intro builtins operation member left'
    rcases applied_keeps_name operation left' with kept | ⟨other, called, own, contrary, done⟩
    · exact kept
    · rw [called] at member done
      exact absurd ⟨other, own, contrary, done ▸ member⟩ changed
  · obtain ⟨earlier', -, effect⟩ := before.latest
    exact applied_updates effect

end Sequentially

section Steps

variable {config : Config Name Fn} {thread other : Thread}
  {shared shared' : Shared Thread Name Fn} {point point' : Point Name Fn}
  {action : Action Name Fn}

/-- A thread past the test for a callable has passed it, and one past the test under the
lock would pass that one again. -/
def Point.Admitted (config : Config Name Fn) (shared : Shared Thread Name Fn) :
    Point Name Fn → Prop
  | .locked operation => operation.uncallable config = none
  | .checked update | .copied update _ | .changed update _ =>
    (Operation.update update).uncallable config = none ∧
      update.refusal config shared.contents = none
  | _ => True

/-- The acting thread has passed the tests before its point. -/
theorem Move.keeps_admitted (move : Move config thread shared point action shared' point')
    (ordered : shared.Ordered) (own : point.Ordered thread shared)
    (admitted : point.Admitted config shared) : point'.Admitted config shared' := by
  have unwritten := (move.keeps_published ordered own).2 shared.builtins (Nat.le_refl _)
  cases move with
  | acquired operation callable free => exact callable
  | admitted update fine => exact ⟨admitted, fine⟩
  | copied update =>
    have kept : shared.copy.contents = shared.contents := unwritten
    refine ⟨admitted.1, ?_⟩
    rw [kept]
    exact admitted.2
  | changed update updated =>
    have kept : (shared.write updated (update.apply (shared.dicts updated))).contents =
        shared.contents := unwritten
    refine ⟨admitted.1, ?_⟩
    rw [kept]
    exact admitted.2
  | _ => trivial

/-- No action of another thread can make an admitted update fail. -/
theorem Move.keeps_admitted_others
    (move : Move config thread shared point action shared' point')
    (own : point.Ordered thread shared) (different : other ≠ thread) {here : Point Name Fn}
    (law : here.Ordered other shared) (admitted : here.Admitted config shared) :
    here.Admitted config shared' := by
  have kept : shared.lock = some other → shared'.contents = shared.contents := by
    intro held
    obtain ⟨dicts, builtins, -⟩ := move.keeps_dicts own different held
    unfold Shared.contents
    rw [dicts, builtins]
  cases here with
  | locked operation => exact admitted
  | checked update =>
    refine ⟨admitted.1, ?_⟩
    rw [kept law]
    exact admitted.2
  | copied update updated =>
    refine ⟨admitted.1, ?_⟩
    rw [kept law.1]
    exact admitted.2
  | changed update updated =>
    refine ⟨admitted.1, ?_⟩
    rw [kept law.1]
    exact admitted.2
  | _ => trivial

/-- What an action adds to the history: at most one event, of the acting thread, that
leads from its standing to the next. -/
theorem Move.extends_calls (move : Move config thread shared point action shared' point') :
    shared'.calls = shared.calls ∧ point'.standing = point.standing ∨
      ∃ event : Histories.Event Thread (Operation Name Fn) Answer,
        shared'.calls = event :: shared.calls ∧ event.thread = thread ∧
          event.requires = point.standing ∧ event.standing = point'.standing := by
  cases move with
  | acquired | admitted | copied | changed | released => exact .inl ⟨rfl, rfl⟩
  | _ => exact .inr ⟨_, rfl, rfl, rfl, rfl⟩

/-- Where a call settles it has the effect and the outcome of a call on its own; no other
action changes what is published. -/
theorem Move.settles (move : Move config thread shared point action shared' point')
    (ordered : shared.Ordered) (own : point.Ordered thread shared)
    (admitted : point.Admitted config shared) :
    settlements shared'.calls = settlements shared.calls ∧ shared'.contents = shared.contents ∨
      ∃ operation answer,
        settlements shared'.calls = (operation, answer) :: settlements shared.calls ∧
          answer.Stable shared' ∧
          applied config shared.contents operation =
            (shared'.contents, answer.outcome shared'.dicts) := by
  have unwritten := (move.keeps_published ordered own).2 shared.builtins (Nat.le_refl _)
  cases move with
  | notCallable operation text uncallable =>
    exact .inr ⟨operation, .raised text, rfl, trivial, applied_uncallable uncallable⟩
  | refused update text refusal =>
    exact .inr ⟨.update update, .raised text, rfl, trivial, applied_refused admitted refusal⟩
  | taken => exact .inr ⟨.snapshot, .taken shared.builtins, rfl, Nat.le_refl _, applied_snapshot⟩
  | published update updated =>
    obtain ⟨-, -, -, same⟩ := own
    refine .inr ⟨.update update, .done, rfl, trivial, ?_⟩
    rw [applied_admitted admitted.1 admitted.2, ← same]
    rfl
  | copied | changed => exact .inl ⟨rfl, unwritten⟩
  | _ => exact .inl ⟨rfl, rfl⟩

omit [DecidableEq Name] in
/-- What was published before is read alike later. -/
theorem Answer.Stable.outcome_kept {answer : Answer} (stable : answer.Stable shared)
    (kept : ∀ reference ≤ shared.builtins, shared'.dicts reference = shared.dicts reference) :
    answer.outcome shared'.dicts = answer.outcome shared.dicts := by
  cases answer with
  | taken reference =>
    simp only [Answer.outcome]
    rw [kept reference stable]
  | _ => rfl

end Steps

section Histories

variable {config : Config Name Fn} {initial : Builtins Name Fn}
  {thread : Thread} {shared shared' : Shared Thread Name Fn} {point point' : Point Name Fn}
  {action : Action Name Fn}

/-- The history of a state as a sequential run, whose answers are read off its
dictionaries. -/
structure Shared.Serialized (config : Config Name Fn) (initial : Builtins Name Fn)
    (shared : Shared Thread Name Fn) : Prop where
  stable : ∀ call ∈ settlements shared.calls, call.2.Stable shared
  sequential : Sequential (applied config) initial
    ((settlements shared.calls).map fun call => (call.1, call.2.outcome shared.dicts))
    shared.contents

/-- A history stays a sequential run. -/
theorem Move.keeps_serialized (move : Move config thread shared point action shared' point')
    (ordered : shared.Ordered) (own : point.Ordered thread shared)
    (admitted : point.Admitted config shared) (serialized : shared.Serialized config initial) :
    shared'.Serialized config initial := by
  obtain ⟨forward, kept⟩ := move.keeps_published ordered own
  have reread : (settlements shared.calls).map (fun call => (call.1, call.2.outcome shared'.dicts)) =
      (settlements shared.calls).map (fun call => (call.1, call.2.outcome shared.dicts)) := by
    refine List.map_congr_left fun call settled => ?_
    rw [(serialized.stable call settled).outcome_kept kept]
  rcases move.settles ordered own admitted with
    ⟨same, unchanged⟩ | ⟨operation, answer, settled, stable, effect⟩
  · constructor
    · intro call member
      rw [same] at member
      exact (serialized.stable call member).mono forward
    · rw [same, reread, unchanged]
      exact serialized.sequential
  · constructor
    · rw [settled]
      refine List.forall_mem_cons.mpr ⟨stable, fun call member => ?_⟩
      exact (serialized.stable call member).mono forward
    · rw [settled, List.map_cons, reread]
      have next := Sequential.next operation serialized.sequential
      rwa [effect] at next

/-- The sequential run at a snapshot: a name that an update changed before stands as the
update left it, unless a call in between changed it to the contrary. -/
theorem Shared.Serialized.updated (serialized : shared.Serialized config initial)
    {later between earlier : List (Operation Name Fn × Answer)} {reference : Nat}
    {update : Update Name Fn}
    (settled : settlements shared.calls = later ++ (.snapshot, .taken reference) :: between ++
      (.update update, .done) :: earlier) :
    (shared.dicts reference update.name).isSome = update.registers ∨
      ∃ other : Update Name Fn, other.name = update.name ∧ other.registers ≠ update.registers ∧
        (.update other, .done) ∈ between := by
  have run := serialized.sequential
  rw [settled, List.append_assoc, List.map_append] at run
  obtain ⟨finish, before, -⟩ := run.split
  rw [List.cons_append, List.map_cons] at before
  obtain ⟨middle, earlier', effect⟩ := before.latest
  have read : middle = shared.dicts reference := by
    rw [applied_snapshot] at effect
    cases effect
    rfl
  rw [List.map_append, List.map_cons] at earlier'
  rcases updated_until_changed earlier' with left' | ⟨other, own, contrary, changed⟩
  · rw [← read]
    exact .inl left'
  · obtain ⟨⟨operation, answer⟩, member, same⟩ := List.mem_map.mp changed
    obtain ⟨called, outcome⟩ := Prod.mk.inj same
    cases answer with
    | done => exact .inr ⟨other, own, contrary, called ▸ member⟩
    | _ => cases outcome

end Histories

section Machine

variable [DecidableEq Thread] {config : Config Name Fn} {initial : Builtins Name Fn}
  {thread : Thread} {shared shared' : Shared Thread Name Fn} {point point' : Point Name Fn}
  {action : Action Name Fn}

/-- Each thread goes on in the order of its calls. -/
theorem Move.keeps_orderly (move : Move config thread shared point action shared' point')
    (orderly : Orderly shared.calls) (stands : standing thread shared.calls = point.standing) :
    Orderly shared'.calls ∧ standing thread shared'.calls = point'.standing ∧
      ∀ other ≠ thread, standing other shared'.calls = standing other shared.calls := by
  rcases move.extends_calls with ⟨same, still⟩ | ⟨event, extended, mine, before, after⟩
  · rw [same, still]
    exact ⟨orderly, stands, fun _ _ => rfl⟩
  · rw [extended]
    refine ⟨⟨?_, orderly⟩, ?_, ?_⟩
    · rw [mine, before]
      exact stands
    · simp only [standing, mine, if_true, after]
    · intro other different
      have foreign : event.thread ≠ other := fun same => different (same ▸ mine)
      simp only [standing, if_neg foreign]

variable {state : State Thread (Shared Thread Name Fn) (Point Name Fn)}

/-- In every reachable state the threads have kept the order of their calls, and the
history is a sequential run.

Proof: by induction on the run: the step of the acting thread keeps the order and the
sequential run, and another thread's standing does not depend on it. -/
theorem serialized_reachable (reached : Reachable (registry config initial) state) :
    (Orderly state.shared.calls ∧ state.shared.Serialized config initial) ∧
      ∀ thread, standing thread state.shared.calls = (state.threads thread).standing ∧
        (state.threads thread).Admitted config state.shared := by
  refine invariant (fun state => (Orderly state.shared.calls ∧
    state.shared.Serialized config initial) ∧
      ∀ thread, standing thread state.shared.calls = (state.threads thread).standing ∧
        (state.threads thread).Admitted config state.shared) ?_ ?_ reached
  · refine ⟨⟨trivial, ⟨?_, .start⟩⟩, fun thread => ⟨rfl, trivial⟩⟩
    exact fun call absent => absurd absent List.not_mem_nil
  · intro before label after earlier laws stepped
    obtain ⟨⟨orderly, serialized⟩, points⟩ := laws
    obtain ⟨ordered, owns⟩ := ordered_reachable earlier
    obtain ⟨stands, admitted⟩ := points label.1
    constructor
    · obtain ⟨shared', point', acted, rfl⟩ := step_cases stepped
      have move := next_move acted
      exact ⟨(move.keeps_orderly orderly stands).1,
        move.keeps_serialized ordered (owns label.1) admitted serialized⟩
    · refine step_locals (fun thread shared point => standing thread shared.calls = point.standing ∧
        point.Admitted config shared) ?_ ?_ stepped
      · intro shared' point' acted
        have move := next_move acted
        exact ⟨(move.keeps_orderly orderly stands).2.1,
          move.keeps_admitted ordered (owns label.1) admitted⟩
      · intro shared' point' acted other different
        have move := next_move acted
        obtain ⟨stood, passed⟩ := points other
        refine ⟨?_, move.keeps_admitted_others (owns label.1) different (owns other) passed⟩
        rw [(move.keeps_orderly orderly stands).2.2 other different]
        exact stood

/-- A run does not write the dictionaries that were published before it. -/
theorem published_kept {after : State Thread (Shared Thread Name Fn) (Point Name Fn)}
    (reached : Reachable (registry config initial) state)
    (run : Reaches (registry config initial) anything state after) {reference : Nat}
    (published : reference ≤ state.shared.builtins) :
    after.shared.dicts reference = state.shared.dicts reference := by
  have kept : Reachable (registry config initial) after ∧
      reference ≤ after.shared.builtins ∧
        after.shared.dicts reference = state.shared.dicts reference := by
    refine reaches_keeps (fun later => Reachable (registry config initial) later ∧
      reference ≤ later.shared.builtins ∧
        later.shared.dicts reference = state.shared.dicts reference) ?_ run
      ⟨reached, published, rfl⟩
    intro before label later law _ stepped
    obtain ⟨arrived, old, same⟩ := law
    obtain ⟨ordered, owns⟩ := ordered_reachable arrived
    refine ⟨reachable_step arrived stepped, ?_⟩
    obtain ⟨shared', point', acted, rfl⟩ := step_cases stepped
    obtain ⟨forward, unwritten⟩ := (next_move acted).keeps_published ordered (owns label.1)
    exact ⟨Nat.le_trans old forward, (unwritten reference old).trans same⟩
  exact kept.2.2

/-- A snapshot that settles after an update has returned shows the update's name as the
update left it, unless a call that settled after the update changed it to the contrary.

Proof: the update settled before it returned. The settlements of the history therefore list
the snapshot, what came in between and the update in this order, and there the sequential
run decides. -/
theorem snapshot_after_update (reached : Reachable (registry config initial) state)
    {later between earlier : List (Histories.Event Thread (Operation Name Fn) Answer)}
    {reader writer : Thread} {reference : Nat} {update : Update Name Fn}
    (split : state.shared.calls = later ++ .settled reader .snapshot (.taken reference) ::
      between ++ .returned writer (.update update) .done :: earlier) :
    ∃ gap older, earlier = gap ++ .settled writer (.update update) .done :: older ∧
      ((state.shared.dicts reference update.name).isSome = update.registers ∨
        ∃ changer, ∃ other : Update Name Fn, other.name = update.name ∧
          other.registers ≠ update.registers ∧
          .settled changer (.update other) .done ∈ between ++ gap) := by
  obtain ⟨⟨orderly, serialized⟩, -⟩ := serialized_reachable reached
  rw [split] at orderly
  obtain ⟨gap, older, found, -⟩ := orderly.settled_before_return
  refine ⟨gap, older, found, ?_⟩
  have settled : settlements state.shared.calls = settlements later ++
      (.snapshot, .taken reference) :: settlements (between ++ gap) ++
        (.update update, .done) :: settlements older := by
    rw [split, found]
    simp [settlements_append, settlements]
  rcases serialized.updated settled with left' | ⟨other, own, contrary, changed⟩
  · exact .inl left'
  · obtain ⟨changer, member⟩ := mem_settlements.mp changed
    exact .inr ⟨changer, other, own, contrary, member⟩

/-- Any number of threads call a registry at any interleaving. Their calls are those of one
caller after another. A call that raises changes nothing. A snapshot that settles after a
registration has returned holds its name, unless a removal of the name settled after the
registration; one that settles after a removal has returned lacks its name, unless a
registration of the name settled after the removal. What was handed out never changes.

Proof: every run has a sequence of the calls, in the order in which they settle, that the
registry serves one after another. A call settles before it returns, so a snapshot that
settles later sees the update, until a later update of the same name. -/
theorem calls_linearize (reached : Reachable (registry config initial) state) :
    Linearized (applied config) (Answer.outcome state.shared.dicts) initial
      state.shared.contents state.shared.calls ∧
    (∀ builtins operation text, (applied config builtins operation).2 = .raised text →
      (applied config builtins operation).1 = builtins) ∧
    (∀ later between earlier reader writer reference name fn replace,
      state.shared.calls =
        later ++ .settled reader .snapshot (.taken reference) :: between ++
          .returned writer (.update (.register name fn replace)) .done :: earlier →
      ∃ gap older,
        earlier = gap ++ .settled writer (.update (.register name fn replace)) .done :: older ∧
        ((state.shared.dicts reference name).isSome ∨
          (∃ remover, .settled remover (.update (.unregister name)) .done ∈ between ++ gap))) ∧
    (∀ later between earlier reader writer reference name,
      state.shared.calls =
        later ++ .settled reader .snapshot (.taken reference) :: between ++
          .returned writer (.update (.unregister name)) .done :: earlier →
      ∃ gap older,
        earlier = gap ++ .settled writer (.update (.unregister name)) .done :: older ∧
        (state.shared.dicts reference name = none ∨
          (∃ registrar fn replace,
            .settled registrar (.update (.register name fn replace)) .done ∈ between ++ gap))) ∧
    ∀ after, Reaches (registry config initial) anything state after →
      ∀ reader reference,
        .settled reader .snapshot (.taken reference) ∈ state.shared.calls →
          after.shared.dicts reference = state.shared.dicts reference := by
  obtain ⟨⟨orderly, serialized⟩, -⟩ := serialized_reachable reached
  refine ⟨⟨orderly, serialized.sequential⟩, fun _ _ _ => applied_raised, ?_, ?_, ?_⟩
  · intro later between earlier reader writer reference name fn replace split
    obtain ⟨gap, older, found, shown⟩ := snapshot_after_update reached split
    refine ⟨gap, older, found, ?_⟩
    rcases shown with present | ⟨remover, other, own, contrary, removed⟩
    · exact .inl present
    · cases other with
      | register other fn' replace' => exact absurd rfl contrary
      | unregister other =>
        obtain rfl : other = name := own
        exact .inr ⟨remover, removed⟩
  · intro later between earlier reader writer reference name split
    obtain ⟨gap, older, found, shown⟩ := snapshot_after_update reached split
    refine ⟨gap, older, found, ?_⟩
    rcases shown with absent | ⟨registrar, other, own, contrary, registered⟩
    · exact .inl (Option.isSome_eq_false_iff.mp absent |> Option.isNone_iff_eq_none.mp)
    · cases other with
      | register other fn replace =>
        obtain rfl : other = name := own
        exact .inr ⟨registrar, fn, replace, registered⟩
      | unregister other => exact absurd rfl contrary
  · intro after run reader reference settled
    refine published_kept reached run ?_
    exact serialized.stable _ (mem_settlements.mpr ⟨reader, settled⟩)

/-- A registry without builtins, called by two threads. -/
def emptyRegistry :
    Machine (State Bool (Shared Bool Bool Unit) (Point Bool Unit)) (Bool × Action Bool Unit) :=
  registry ⟨fun _ => true, fun _ => "name"⟩ (fun _ => none)

/-- Both register a name; the second calls while the first is in the test under the lock,
and takes a snapshot when it has returned. -/
def registrations : List (Bool × Action Bool Unit) :=
  [(true, .call (.update (.register true () false))), (true, .go),
   (false, .call (.update (.register false () false)))] ++ List.replicate 6 (true, .go) ++
    List.replicate 7 (false, .go) ++ [(false, .call .snapshot)] ++ List.replicate 4 (false, .go)

/-- The registry after these calls. -/
def registeredTwice : State Bool (Shared Bool Bool Unit) (Point Bool Unit) :=
  (run emptyRegistry anything emptyRegistry.initial registrations).getD emptyRegistry.initial

/-- The first thread then removes its name, and takes a snapshot. -/
def removal : List (Bool × Action Bool Unit) :=
  [(true, .call (.update (.unregister true)))] ++ List.replicate 7 (true, .go) ++
    [(true, .call .snapshot)] ++ List.replicate 4 (true, .go)

/-- The registry after the removal. -/
def registeredOnce : State Bool (Shared Bool Bool Unit) (Point Bool Unit) :=
  (run emptyRegistry anything emptyRegistry.initial (registrations ++ removal)).getD
    emptyRegistry.initial

/-- Both registrations are done, one after the other, and the snapshot holds both names. When
one of them has been removed, the next snapshot lacks it. -/
theorem calls_linearize_twice :
    Linearized (applied ⟨fun _ => true, fun _ => "name"⟩)
        (Answer.outcome registeredTwice.shared.dicts) (fun _ => none)
        registeredTwice.shared.contents registeredTwice.shared.calls ∧
      settlements registeredTwice.shared.calls = [(.snapshot, .taken 2),
        (.update (.register false () false), .done), (.update (.register true () false), .done)] ∧
      (∀ name, registeredTwice.shared.contents name = some ()) ∧
      (∀ name, registeredTwice.shared.dicts 2 name = some ()) ∧
      settlements registeredOnce.shared.calls = (.snapshot, .taken 3) ::
        (.update (.unregister true), .done) :: settlements registeredTwice.shared.calls ∧
      registeredOnce.shared.dicts 3 true = none := by
  have reachedTwice : Reachable emptyRegistry registeredTwice :=
    executed_reaches emptyRegistry anything registrations _ (by decide)
  have reachedOnce : Reachable emptyRegistry registeredOnce :=
    executed_reaches emptyRegistry anything (registrations ++ removal) _ (by decide)
  refine ⟨(calls_linearize reachedTwice).1, by decide, by decide, by decide, by decide, ?_⟩
  have removed : ∀ gap older, .settled true (.update (.unregister true)) .done ::
      .called true (.update (.unregister true)) :: registeredTwice.shared.calls =
        gap ++ .settled true (.update (.unregister true)) .done :: older → gap = [] := by
    rintro (_ | ⟨event, gap⟩) older found
    · rfl
    · have again : .settled true (.update (.unregister true)) .done ∈
          .called true (.update (.unregister true)) :: registeredTwice.shared.calls := by
        rw [(List.cons.inj found).2]
        exact List.mem_append_right _ List.mem_cons_self
      exact absurd again (by decide)
  obtain ⟨gap, older, found, absent | ⟨registrar, fn, replace, registered⟩⟩ :=
    (calls_linearize reachedOnce).2.2.2.1 [.returned true .snapshot (.taken 3)]
      [.called true .snapshot] _ true true 3 true rfl
  · exact absent
  · rw [removed gap older found, List.append_nil, List.mem_singleton] at registered
    cases registered

end Machine

end OpaPyWasm.BuiltinRegistry
