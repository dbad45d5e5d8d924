import OpaPyWasm.Library.Threads

/-!
# The registry of builtins

`BuiltinRegistry` publishes one dictionary. A writer copies it under the lock, changes the
copy and publishes the copy. A reader is handed a reference to the published dictionary and
reads it after the lock is released.

The dictionaries live on a heap, so that a write to one would show through every reference
to it. Taking the lock, the test, the copy, the change, the publication and the release
are one action each.
-/

namespace OpaPyWasm.BuiltinRegistry

open Machines Threads

/-- The contents of a dictionary of builtins. -/
abbrev Builtins (Name Fn : Type) := Name → Option Fn

/-- The calls that publish a new dictionary. -/
inductive Update (Name Fn : Type) where
  | register (name : Name) (fn : Fn) (replace : Bool)
  | unregister (name : Name)
deriving DecidableEq

/-- A call of the registry. -/
inductive Operation (Name Fn : Type) where
  | update (update : Update Name Fn)
  | snapshot
deriving DecidableEq

/-- How a call ends; a snapshot is a reference to a dictionary. -/
inductive Answer where
  | done
  | raised (text : String)
  | taken (reference : Nat)
deriving DecidableEq

/-- The program point of a thread in the registry, with its local variables. -/
inductive Point (Name Fn : Type) where
  | outside (last : Option Answer)
  | called (operation : Operation Name Fn)
  | locked (operation : Operation Name Fn)
  | checked (update : Update Name Fn)
  | copied (update : Update Name Fn) (updated : Nat)
  | changed (update : Update Name Fn) (updated : Nat)
  | leaving (operation : Operation Name Fn) (answer : Answer)
  | returning (operation : Operation Name Fn) (answer : Answer)
deriving DecidableEq

/-- What the history records: a call settles where it raises, reads the published
dictionary or publishes its own. -/
inductive Event (Thread Name Fn : Type) where
  | called (thread : Thread) (operation : Operation Name Fn)
  | settled (thread : Thread) (operation : Operation Name Fn) (answer : Answer)
  | returned (thread : Thread) (operation : Operation Name Fn) (answer : Answer)
deriving DecidableEq

/-- What all threads share. `builtins` refers to the published dictionary. The contents
published so far, the name that each publication changed, and the history with its latest
event first are history variables. -/
structure Shared (Thread Name Fn : Type) where
  lock : Option Thread
  dicts : Nat → Builtins Name Fn
  allocated : Nat
  builtins : Nat
  registries : List (Builtins Name Fn)
  changes : List Name
  history : List (Event Thread Name Fn)

/-- What the interpreter says of objects: `callable` of a builtin and `repr` of a name. -/
structure Config (Name Fn : Type) where
  callable : Fn → Bool
  repr : Name → String

/-- A caller calls, or the thread goes on. -/
inductive Action (Name Fn : Type) where
  | call (operation : Operation Name Fn)
  | go
deriving DecidableEq

variable {Thread Name Fn : Type} [DecidableEq Name]

/-- The name that an update is about. -/
def Update.name : Update Name Fn → Name
  | .register name _ _ => name
  | .unregister name => name

/-- What an update makes of a dictionary. -/
def Update.apply (builtins : Builtins Name Fn) : Update Name Fn → Builtins Name Fn
  | .register name fn _ => Function.update builtins name (some fn)
  | .unregister name => Function.update builtins name none

/-- The test of `register` before its lock. -/
def Operation.uncallable (config : Config Name Fn) : Operation Name Fn → Option String
  | .update (.register name fn _) =>
    if config.callable fn then none else some ("builtin " ++ config.repr name ++ " is not callable")
  | _ => none

/-- The tests under the lock. -/
def Update.refusal (config : Config Name Fn) (builtins : Builtins Name Fn) :
    Update Name Fn → Option String
  | .register name _ replace =>
    if !replace && (builtins name).isSome then
      some ("builtin " ++ config.repr name ++ " is already registered")
    else none
  | .unregister name =>
    if (builtins name).isNone then some ("builtin " ++ config.repr name ++ " is not registered")
    else none

/-- Add an event to the history. -/
@[simps] def Shared.record (shared : Shared Thread Name Fn) (event : Event Thread Name Fn) :
    Shared Thread Name Fn :=
  { shared with history := event :: shared.history }

/-- The contents of the published dictionary. -/
def Shared.contents (shared : Shared Thread Name Fn) : Builtins Name Fn :=
  shared.dicts shared.builtins

/-- Take or release the lock. -/
@[simps] def Shared.setLock (shared : Shared Thread Name Fn) (lock : Option Thread) :
    Shared Thread Name Fn :=
  { shared with lock := lock }

/-- Write a dictionary. -/
def Shared.write (shared : Shared Thread Name Fn) (reference : Nat)
    (builtins : Builtins Name Fn) : Shared Thread Name Fn :=
  { shared with dicts := Function.update shared.dicts reference builtins }

/-- Copy the published dictionary into a new one. -/
def Shared.copy (shared : Shared Thread Name Fn) : Shared Thread Name Fn :=
  { shared.write shared.allocated shared.contents with allocated := shared.allocated + 1 }

/-- Publish a dictionary that changed one name. -/
@[simps] def Shared.publish (shared : Shared Thread Name Fn) (name : Name) (updated : Nat) :
    Shared Thread Name Fn :=
  { shared with
    builtins := updated
    registries := shared.registries ++ [shared.dicts updated]
    changes := shared.changes ++ [name] }

/-- One atomic action of a thread at its point. -/
def next (config : Config Name Fn) (thread : Thread) (shared : Shared Thread Name Fn)
    (point : Point Name Fn) (action : Action Name Fn) :
    Option (Shared Thread Name Fn × Point Name Fn) :=
  match point, action with
  | .outside _, .call operation =>
    some (shared.record (.called thread operation), .called operation)
  | .called operation, .go =>
    match operation.uncallable config with
    | some text =>
      some (shared.record (.settled thread operation (.raised text)),
        .returning operation (.raised text))
    | none =>
      if shared.lock.isSome then none
      else some (shared.setLock (some thread), .locked operation)
  | .locked (.update update), .go =>
    match update.refusal config shared.contents with
    | some text =>
      some (shared.record (.settled thread (.update update) (.raised text)),
        .leaving (.update update) (.raised text))
    | none => some (shared, .checked update)
  | .locked .snapshot, .go =>
    some (shared.record (.settled thread .snapshot (.taken shared.builtins)),
      .leaving .snapshot (.taken shared.builtins))
  | .checked update, .go => some (shared.copy, .copied update shared.allocated)
  | .copied update updated, .go =>
    some (shared.write updated (update.apply (shared.dicts updated)), .changed update updated)
  | .changed update updated, .go =>
    some ((shared.publish update.name updated).record (.settled thread (.update update) .done),
      .leaving (.update update) .done)
  | .leaving operation answer, .go => some (shared.setLock none, .returning operation answer)
  | .returning operation answer, .go =>
    some (shared.record (.returned thread operation answer), .outside (some answer))
  | _, _ => none

/-- What one atomic action can do. -/
inductive Move (config : Config Name Fn) (thread : Thread) (shared : Shared Thread Name Fn) :
    Point Name Fn → Action Name Fn → Shared Thread Name Fn → Point Name Fn → Prop
  | called (last : Option Answer) (operation : Operation Name Fn) :
      Move config thread shared (.outside last) (.call operation)
        (shared.record (.called thread operation)) (.called operation)
  | notCallable (operation : Operation Name Fn) (text : String)
      (uncallable : operation.uncallable config = some text) :
      Move config thread shared (.called operation) .go
        (shared.record (.settled thread operation (.raised text)))
        (.returning operation (.raised text))
  | acquired (operation : Operation Name Fn) (callable : operation.uncallable config = none)
      (free : shared.lock = none) :
      Move config thread shared (.called operation) .go (shared.setLock (some thread))
        (.locked operation)
  | refused (update : Update Name Fn) (text : String)
      (refusal : update.refusal config shared.contents = some text) :
      Move config thread shared (.locked (.update update)) .go
        (shared.record (.settled thread (.update update) (.raised text)))
        (.leaving (.update update) (.raised text))
  | admitted (update : Update Name Fn) (fine : update.refusal config shared.contents = none) :
      Move config thread shared (.locked (.update update)) .go shared (.checked update)
  | taken :
      Move config thread shared (.locked .snapshot) .go
        (shared.record (.settled thread .snapshot (.taken shared.builtins)))
        (.leaving .snapshot (.taken shared.builtins))
  | copied (update : Update Name Fn) :
      Move config thread shared (.checked update) .go shared.copy (.copied update shared.allocated)
  | changed (update : Update Name Fn) (updated : Nat) :
      Move config thread shared (.copied update updated) .go
        (shared.write updated (update.apply (shared.dicts updated))) (.changed update updated)
  | published (update : Update Name Fn) (updated : Nat) :
      Move config thread shared (.changed update updated) .go
        ((shared.publish update.name updated).record (.settled thread (.update update) .done))
        (.leaving (.update update) .done)
  | released (operation : Operation Name Fn) (answer : Answer) :
      Move config thread shared (.leaving operation answer) .go (shared.setLock none)
        (.returning operation answer)
  | returned (operation : Operation Name Fn) (answer : Answer) :
      Move config thread shared (.returning operation answer) .go
        (shared.record (.returned thread operation answer)) (.outside (some answer))

/-- Every action of a thread is one of these moves. -/
theorem next_move {config : Config Name Fn} {thread : Thread}
    {shared shared' : Shared Thread Name Fn} {point point' : Point Name Fn}
    {action : Action Name Fn}
    (acted : next config thread shared point action = some (shared', point')) :
    Move config thread shared point action shared' point' := by
  unfold next at acted
  split at acted
  all_goals (try split at acted)
  all_goals (try split at acted)
  all_goals first
    | exact absurd acted (Option.some_ne_none _).symm
    | (obtain ⟨rfl, rfl⟩ := Prod.mk.inj (Option.some.inj acted)
       constructor <;> simp_all)

section Laws

/-- A dictionary that is published or was: no thread writes it any more. -/
def Answer.Stable (shared : Shared Thread Name Fn) : Answer → Prop
  | .taken reference => reference ≤ shared.builtins
  | _ => True

/-- The laws of the shared state: the published dictionary holds the latest contents, and
each publication changed no name but its own. -/
structure Shared.Ordered (shared : Shared Thread Name Fn) : Prop where
  count : shared.registries.length = shared.changes.length + 1
  latest : shared.registries[shared.changes.length]? = some shared.contents
  allocated : shared.builtins < shared.allocated
  others : ∀ moment name before after, shared.changes[moment]? = some name →
    shared.registries[moment]? = some before → shared.registries[moment + 1]? = some after →
      ∀ other ≠ name, after other = before other

/-- The laws of a thread at its point: under the lock its copy is new and no other thread
refers to it. -/
def Point.Ordered (thread : Thread) (shared : Shared Thread Name Fn) : Point Name Fn → Prop
  | .outside last => ∀ answer, last = some answer → answer.Stable shared
  | .called _ => True
  | .locked _ => shared.lock = some thread
  | .checked _ => shared.lock = some thread
  | .copied _ updated =>
    shared.lock = some thread ∧ shared.builtins < updated ∧ updated < shared.allocated ∧
      shared.dicts updated = shared.contents
  | .changed update updated =>
    shared.lock = some thread ∧ shared.builtins < updated ∧ updated < shared.allocated ∧
      shared.dicts updated = update.apply shared.contents
  | .leaving _ answer => shared.lock = some thread ∧ answer.Stable shared
  | .returning _ answer => answer.Stable shared

variable {config : Config Name Fn} {thread other : Thread}
  {shared shared' : Shared Thread Name Fn} {point point' : Point Name Fn}
  {action : Action Name Fn}

/-- An update changes no name but its own. -/
theorem Update.apply_other (update : Update Name Fn) (builtins : Builtins Name Fn) {other : Name}
    (apart : other ≠ update.name) : update.apply builtins other = builtins other := by
  cases update with
  | register name fn replace => exact Function.update_of_ne apart _ _
  | unregister name => exact Function.update_of_ne apart _ _

/-- The published dictionary moves on to newer ones, and one that was published is not
written again. -/
theorem Move.keeps_published (move : Move config thread shared point action shared' point')
    (ordered : shared.Ordered) (own : point.Ordered thread shared) :
    shared.builtins ≤ shared'.builtins ∧
      ∀ reference ≤ shared.builtins, shared'.dicts reference = shared.dicts reference := by
  cases move with
  | copied update =>
    refine ⟨Nat.le_refl _, fun reference old => Function.update_of_ne ?_ _ _⟩
    have fresh := ordered.allocated
    omega
  | changed update updated =>
    obtain ⟨-, newer, -, -⟩ := own
    exact ⟨Nat.le_refl _, fun reference old => Function.update_of_ne (by omega) _ _⟩
  | published update updated =>
    obtain ⟨-, newer, -, -⟩ := own
    exact ⟨Nat.le_of_lt newer, fun _ _ => rfl⟩
  | _ => exact ⟨Nat.le_refl _, fun _ _ => rfl⟩

omit [DecidableEq Name] in
/-- A snapshot stays what it is. -/
theorem Answer.Stable.mono {answer : Answer} (forward : shared.builtins ≤ shared'.builtins)
    (stable : answer.Stable shared) : answer.Stable shared' := by
  cases answer with
  | taken reference => exact Nat.le_trans stable forward
  | _ => trivial

/-- Nothing is published but what the acting thread wrote under the lock. -/
theorem Move.publishes (move : Move config thread shared point action shared' point')
    (own : point.Ordered thread shared) :
    (shared'.builtins = shared.builtins ∧ shared'.registries = shared.registries ∧
        shared'.changes = shared.changes) ∨
      ∃ update : Update Name Fn, shared.lock = some thread ∧
        shared'.registries = shared.registries ++ [update.apply shared.contents] ∧
        shared'.changes = shared.changes ++ [update.name] ∧
        shared'.contents = update.apply shared.contents := by
  cases move with
  | published update updated =>
    obtain ⟨locked, -, -, same⟩ := own
    exact .inr ⟨update, locked, by simp [same], rfl, same⟩
  | _ => exact .inl ⟨rfl, rfl, rfl⟩

/-- The dictionaries in use are allocated. -/
theorem Move.keeps_allocated (move : Move config thread shared point action shared' point')
    (ordered : shared.Ordered) (own : point.Ordered thread shared) :
    shared'.builtins < shared'.allocated := by
  have before := ordered.allocated
  cases move with
  | copied update => exact Nat.lt_succ_of_lt before
  | published update updated =>
    obtain ⟨-, -, allocated, -⟩ := own
    exact allocated
  | _ => exact before

/-- The laws of the shared state are kept.

Proof: a step that publishes nothing keeps all. One that publishes appends one registry and
one changed name, and its registry differs from the one before at this name only. -/
theorem Move.keeps_ordered (move : Move config thread shared point action shared' point')
    (ordered : shared.Ordered) (own : point.Ordered thread shared) : shared'.Ordered := by
  obtain ⟨-, unwritten⟩ := move.keeps_published ordered own
  have allocated := move.keeps_allocated ordered own
  rcases move.publishes own with ⟨same, registries, changes⟩ | ⟨update, -, registries, changes, contents⟩
  · have kept : shared'.contents = shared.contents := by
      unfold Shared.contents
      rw [same]
      exact unwritten _ (Nat.le_refl _)
    constructor
    · rw [registries, changes]
      exact ordered.count
    · rw [registries, changes, kept]
      exact ordered.latest
    · exact allocated
    · rw [registries, changes]
      exact ordered.others
  · have count := ordered.count
    constructor
    · rw [registries, changes, List.length_append, List.length_append, count]
      rfl
    · rw [registries, changes, contents, List.length_append, List.length_singleton, ← count,
        List.getElem?_concat_length]
    · exact allocated
    · intro moment name before after changed first second other apart
      rw [registries] at first second
      rw [changes] at changed
      by_cases earlier : moment < shared.changes.length
      · rw [List.getElem?_append_left (by omega)] at changed first second
        exact ordered.others moment name before after changed first second other apart
      · obtain ⟨inside, -⟩ := List.getElem?_eq_some_iff.mp changed
        rw [List.length_append, List.length_singleton] at inside
        obtain rfl : moment = shared.changes.length := by omega
        rw [List.getElem?_concat_length] at changed
        rw [List.getElem?_append_left (by omega), ordered.latest] at first
        rw [← count, List.getElem?_concat_length] at second
        cases changed
        cases first
        cases second
        exact update.apply_other _ apart

/-- The acting thread keeps its own laws.

Proof: one case for each step of a call. The copy has the contents of the published dict, the
change is applied to it, and the copy is not the published dict, so writing it changes no
contents. -/
theorem Move.keeps_own (move : Move config thread shared point action shared' point')
    (ordered : shared.Ordered) (own : point.Ordered thread shared) :
    point'.Ordered thread shared' := by
  cases move with
  | called | notCallable => trivial
  | acquired => rfl
  | refused => exact ⟨own, True.intro⟩
  | admitted => exact own
  | taken => exact ⟨own, Nat.le_refl _⟩
  | copied update =>
    have fresh := ordered.allocated
    have copied : shared.copy.dicts shared.allocated = shared.contents := Function.update_self _ _ _
    have kept : shared.copy.contents = shared.contents :=
      Function.update_of_ne (Nat.ne_of_lt fresh) _ _
    exact ⟨own, fresh, Nat.lt_succ_self _, copied.trans kept.symm⟩
  | changed update updated =>
    obtain ⟨locked, newer, allocated, same⟩ := own
    have written : (shared.write updated (update.apply (shared.dicts updated))).dicts updated =
        update.apply shared.contents := by
      rw [← same]
      exact Function.update_self _ _ _
    have kept : (shared.write updated (update.apply (shared.dicts updated))).contents =
        shared.contents := Function.update_of_ne (Nat.ne_of_lt newer) _ _
    refine ⟨locked, newer, allocated, ?_⟩
    rw [written, kept]
  | published => exact ⟨own.1, True.intro⟩
  | released => exact own.2
  | returned operation answer =>
    intro answer' same
    cases same
    exact own

/-- A lock that another thread holds is not taken or released. -/
theorem Move.keeps_lock (move : Move config thread shared point action shared' point')
    (own : point.Ordered thread shared) (different : other ≠ thread)
    (held : shared.lock = some other) : shared'.lock = some other := by
  cases move with
  | acquired operation callable free =>
    rw [free] at held
    cases held
  | released operation answer =>
    rw [own.1] at held
    exact absurd (Option.some.inj held).symm different
  | _ => exact held

/-- While another thread holds the lock, no dictionary is copied, written or published. -/
theorem Move.keeps_dicts (move : Move config thread shared point action shared' point')
    (own : point.Ordered thread shared) (different : other ≠ thread)
    (held : shared.lock = some other) :
    shared'.dicts = shared.dicts ∧ shared'.builtins = shared.builtins ∧
      shared'.allocated = shared.allocated := by
  have foreign : shared.lock ≠ some thread := by
    rw [held]
    exact fun same => different (Option.some.inj same)
  cases move with
  | copied => exact absurd own foreign
  | changed => exact absurd own.1 foreign
  | published => exact absurd own.1 foreign
  | _ => exact ⟨rfl, rfl, rfl⟩

/-- The laws of the other threads survive. -/
theorem Move.keeps_others (move : Move config thread shared point action shared' point')
    (ordered : shared.Ordered) (own : point.Ordered thread shared) (different : other ≠ thread)
    {here : Point Name Fn} (law : here.Ordered other shared) : here.Ordered other shared' := by
  obtain ⟨forward, -⟩ := move.keeps_published ordered own
  have locked := move.keeps_lock own different
  have kept := move.keeps_dicts own different
  cases here with
  | outside last => exact fun answer same => (law answer same).mono forward
  | called operation => trivial
  | locked operation => exact locked law
  | checked update => exact locked law
  | copied update updated =>
    obtain ⟨held, rest⟩ := law
    obtain ⟨dicts, builtins, allocated⟩ := kept held
    unfold Point.Ordered Shared.contents
    rw [dicts, builtins, allocated]
    exact ⟨locked held, rest⟩
  | changed update updated =>
    obtain ⟨held, rest⟩ := law
    obtain ⟨dicts, builtins, allocated⟩ := kept held
    unfold Point.Ordered Shared.contents
    rw [dicts, builtins, allocated]
    exact ⟨locked held, rest⟩
  | leaving operation answer => exact ⟨locked law.1, law.2.mono forward⟩
  | returning operation answer => exact law.mono forward

end Laws

section Readers

variable {config : Config Name Fn} {thread : Thread} {shared shared' : Shared Thread Name Fn}
  {point point' : Point Name Fn} {action : Action Name Fn}

/-- The dictionary that a thread is about to be handed. -/
def Point.reference? : Point Name Fn → Option Nat
  | .leaving _ (.taken reference) => some reference
  | .returning _ (.taken reference) => some reference
  | .outside (some (.taken reference)) => some reference
  | _ => none

/-- What is handed out is the dictionary that was published when it was read. -/
theorem Move.hands_out (move : Move config thread shared point action shared' point')
    {reference : Nat} (handed : point'.reference? = some reference) :
    point.reference? = some reference ∨
      point = .locked .snapshot ∧ action = .go ∧ reference = shared.builtins := by
  cases move with
  | taken => exact .inr ⟨rfl, rfl, (Option.some.inj handed).symm⟩
  | released operation answer => exact .inl (by cases answer <;> exact handed)
  | returned operation answer => exact .inl (by cases answer <;> exact handed)
  | _ => cases handed

/-- What was published stays on record. -/
theorem Move.keeps_registries (move : Move config thread shared point action shared' point')
    (own : point.Ordered thread shared) {moment : Nat} {builtins : Builtins Name Fn}
    (published : shared.registries[moment]? = some builtins) :
    shared'.registries[moment]? = some builtins := by
  rcases move.publishes own with ⟨-, same, -⟩ | ⟨update, -, extended, -, -⟩
  · rwa [same]
  · obtain ⟨inside, -⟩ := List.getElem?_eq_some_iff.mp published
    rwa [extended, List.getElem?_append_left inside]

/-- How the shared state goes on: what was published is neither written nor forgotten. -/
structure Shared.Grown (before after : Shared Thread Name Fn) : Prop where
  forward : before.builtins ≤ after.builtins
  kept : ∀ reference ≤ before.builtins, after.dicts reference = before.dicts reference
  recorded : ∀ (moment : Nat) (builtins : Builtins Name Fn),
    before.registries[moment]? = some builtins → after.registries[moment]? = some builtins

omit [DecidableEq Name] in
/-- A registry has grown from itself. -/
theorem Shared.Grown.refl (shared : Shared Thread Name Fn) : shared.Grown shared :=
  ⟨Nat.le_refl _, fun _ _ => rfl, fun _ _ => id⟩

/-- One step of a thread at most adds a registry: what was published is neither written nor
forgotten. -/
theorem Move.grown (move : Move config thread shared point action shared' point')
    (ordered : shared.Ordered) (own : point.Ordered thread shared) : shared.Grown shared' := by
  obtain ⟨forward, kept⟩ := move.keeps_published ordered own
  exact ⟨forward, kept, fun _ _ => move.keeps_registries own⟩

omit [DecidableEq Name] in
/-- A name that no publication changed since a moment resolves as it did then.

Proof: by induction on the publications since that moment; each of them differs from the one
before at the name that it changed only. -/
theorem Shared.Ordered.unchanged (ordered : shared.Ordered) {moment : Nat} {name : Name}
    {builtins : Builtins Name Fn} (published : shared.registries[moment]? = some builtins)
    (kept : name ∉ shared.changes.drop moment) : shared.contents name = builtins name := by
  have count := ordered.count
  obtain ⟨inside, -⟩ := List.getElem?_eq_some_iff.mp published
  have later : ∀ distance after, shared.registries[moment + distance]? = some after →
      after name = builtins name := by
    intro distance
    induction distance with
    | zero =>
      intro after same
      rw [Nat.add_zero, published] at same
      cases same
      rfl
    | succ distance inductionHypothesis =>
      intro after same
      obtain ⟨bound, -⟩ := List.getElem?_eq_some_iff.mp same
      have before := List.getElem?_eq_getElem (l := shared.registries)
        (show moment + distance < shared.registries.length by omega)
      have changed := List.getElem?_eq_getElem (l := shared.changes)
        (show moment + distance < shared.changes.length by omega)
      rw [← inductionHypothesis _ before]
      refine ordered.others _ _ _ _ changed before same name (fun own => kept ?_)
      rw [own, List.mem_iff_getElem?]
      exact ⟨distance, by rw [List.getElem?_drop, changed]⟩
  have latest := ordered.latest
  rw [show shared.changes.length = moment + (shared.changes.length - moment) by omega] at latest
  exact later _ _ latest

end Readers

/-- A registry with its initial builtins that nobody has called yet. -/
def opened (initial : Builtins Name Fn) : Shared Thread Name Fn where
  lock := none
  dicts := fun _ => initial
  allocated := 1
  builtins := 0
  registries := [initial]
  changes := []
  history := []

section Machine

variable [DecidableEq Thread] {config : Config Name Fn} {initial : Builtins Name Fn}
  {state : State Thread (Shared Thread Name Fn) (Point Name Fn)}

/-- The registry called by any number of threads at every interleaving. -/
def registry (config : Config Name Fn) (initial : Builtins Name Fn) :
    Machine (State Thread (Shared Thread Name Fn) (Point Name Fn)) (Thread × Action Name Fn) :=
  Threads.machine (next config) ⟨opened initial, fun _ => .outside none⟩

/-- In every reachable state of a registry its laws hold. -/
theorem ordered_reachable (reached : Reachable (registry config initial) state) :
    state.shared.Ordered ∧ ∀ thread, (state.threads thread).Ordered thread state.shared := by
  refine invariant (fun state => state.shared.Ordered ∧
    ∀ thread, (state.threads thread).Ordered thread state.shared) ?_ ?_ reached
  · refine ⟨⟨rfl, rfl, Nat.one_pos, fun _ _ _ _ changed => ?_⟩, fun _ _ same => ?_⟩
    · cases changed
    · cases same
  · intro before label after _ laws stepped
    obtain ⟨ordered, points⟩ := laws
    constructor
    · obtain ⟨shared', point', acted, rfl⟩ := step_cases stepped
      exact (next_move acted).keeps_ordered ordered (points label.1)
    · refine step_locals (fun thread shared point => point.Ordered thread shared) ?_ ?_ stepped
      · exact fun _ _ acted => (next_move acted).keeps_own ordered (points label.1)
      · exact fun _ _ acted other different =>
          (next_move acted).keeps_others ordered (points label.1) different (points other)

end Machine

end OpaPyWasm.BuiltinRegistry
