import OpaPyWasm.Library.SharedDocument

/-!
# A document that is called one call at a time

When no call begins before the last one has returned, the object is a plain document:
an update replaces it, a query is answered from it, and after a close both are refused.
The threads may differ from call to call.

What the callers see determines how the calls follow each other, so the law is about
the events alone. It is proved along a run: every event it shows is the next one of
the given calls, and between two calls all threads rest.
-/

namespace SharedDocument

open Machines Threads Refinement

universe u v w x y z
variable {Thread : Type u} {Doc : Type v} {Update : Type w} {Query : Type x} {Plan : Type y}
  {Answer : Type z}

/-- A call with the answer that it was given. -/
structure Completed (Thread : Type u) (Update : Type w) (Query : Type x) (Answer : Type z) where
  thread : Thread
  call : Call Update Query
  answer : Answer

/-- What the callers see of it when nothing happens meanwhile. -/
def Completed.events (completed : Completed Thread Update Query Answer) :
    List (Event Thread Update Query Answer) :=
  [.called completed.thread completed.call, .returned completed.thread completed.answer]

/-- What the callers see of calls that do not overlap. -/
def history (calls : List (Completed Thread Update Query Answer)) :
    List (Event Thread Update Query Answer) :=
  calls.flatMap Completed.events

/-- A call on a plain document. Nothing makes a query wait, so none gives up. -/
inductive Serves (meaning : Meaning Doc Update Query Plan Answer) :
    Shared Doc → Call Update Query → Answer → Shared Doc → Prop
  | updateRefused (shared : Shared Doc) (update : Update) (shut : shared.accepting = false) :
      Serves meaning shared (.update update) meaning.refused shared
  | updateRejected (shared : Shared Doc) (update : Update) (answer : Answer)
      (isOpen : shared.accepting = true) (rejected : meaning.serialise update = .error answer) :
      Serves meaning shared (.update update) answer shared
  | updateStored (shared : Shared Doc) (update : Update) (document : Doc)
      (isOpen : shared.accepting = true) (stored : meaning.serialise update = .ok document) :
      Serves meaning shared (.update update) meaning.done { shared with document := document }
  | queryRejected (shared : Shared Doc) (query : Query) (answer : Answer)
      (rejected : meaning.resolve query = .error answer) :
      Serves meaning shared (.query query) answer shared
  | queryRefused (shared : Shared Doc) (query : Query) (plan : Plan)
      (resolved : meaning.resolve query = .ok plan) (shut : shared.admitting = false) :
      Serves meaning shared (.query query) meaning.refused shared
  | queryAnswered (shared : Shared Doc) (query : Query) (plan : Plan)
      (resolved : meaning.resolve query = .ok plan) (isOpen : shared.admitting = true) :
      Serves meaning shared (.query query) (meaning.decide shared.document plan) shared
  | closed (shared : Shared Doc) :
      Serves meaning shared .close meaning.done
        { shared with admitting := false, accepting := false }

/-- One call after the other on a plain document. -/
inductive Serial (meaning : Meaning Doc Update Query Plan Answer) (first : Shared Doc) :
    List (Completed Thread Update Query Answer) → Shared Doc → Prop
  | nil : Serial meaning first [] first
  | snoc {done : List (Completed Thread Update Query Answer)} {middle last : Shared Doc}
      {completed : Completed Thread Update Query Answer} (earlier : Serial meaning first done middle)
      (served : Serves meaning middle completed.call completed.answer last) :
      Serial meaning first (done ++ [completed]) last

/-- A plain document after a call. -/
def Meaning.after (meaning : Meaning Doc Update Query Plan Answer) (shared : Shared Doc) :
    Call Update Query → Shared Doc
  | .update update =>
    match shared.accepting, meaning.serialise update with
    | true, .ok document => { shared with document := document }
    | _, _ => shared
  | .query _ => shared
  | .close => { shared with admitting := false, accepting := false }

/-- A plain document after calls. -/
def Meaning.afterAll (meaning : Meaning Doc Update Query Plan Answer) (first : Shared Doc)
    (calls : List (Completed Thread Update Query Answer)) : Shared Doc :=
  calls.foldl (fun shared completed => meaning.after shared completed.call) first

variable {meaning : Meaning Doc Update Query Plan Answer} {before shared shared' : Shared Doc}
  {call : Call Update Query} {standing standing' : Standing Doc Update Query Plan Answer}
  {action : Action Update Query}

/-- A call leaves the document that its own text says, whatever its answer. -/
theorem Serves.after {answer : Answer} (served : Serves meaning shared call answer shared') :
    shared' = meaning.after shared call := by
  cases served with
  | updateRefused _ shut => simp [Meaning.after, shut]
  | updateRejected _ _ _ rejected => simp [Meaning.after, rejected]
  | updateStored _ _ isOpen stored => simp [Meaning.after, isOpen, stored]
  | queryRejected => rfl
  | queryRefused => rfl
  | queryAnswered => rfl
  | closed => rfl

/-- Whether a query may give up is nothing to a plain document. -/
theorem Serves.of_patient {answer : Answer} {timedOut : Option Answer}
    (served : Serves { meaning with timedOut := timedOut } shared call answer shared') :
    Serves meaning shared call answer shared' := by
  cases served with
  | updateRefused _ shut => exact .updateRefused _ _ shut
  | updateRejected _ _ isOpen rejected => exact .updateRejected _ _ _ isOpen rejected
  | updateStored _ _ isOpen stored => exact .updateStored _ _ _ isOpen stored
  | queryRejected _ _ rejected => exact .queryRejected _ _ _ rejected
  | queryRefused _ plan resolved shut => exact .queryRefused _ _ plan resolved shut
  | queryAnswered _ plan resolved isOpen => exact .queryAnswered _ _ plan resolved isOpen
  | closed => exact .closed _

/-- Nor to calls on it. -/
theorem Serial.of_patient {first last : Shared Doc} {timedOut : Option Answer}
    {calls : List (Completed Thread Update Query Answer)}
    (serial : Serial { meaning with timedOut := timedOut } first calls last) :
    Serial meaning first calls last := by
  induction serial with
  | nil => exact .nil
  | snoc _ served inductionHypothesis => exact .snoc inductionHypothesis served.of_patient

/-- Calls leave the document that their texts say. -/
theorem Serial.afterAll {first last : Shared Doc}
    {calls : List (Completed Thread Update Query Answer)}
    (serial : Serial meaning first calls last) : last = meaning.afterAll first calls := by
  induction serial with
  | nil => rfl
  | snoc _ served inductionHypothesis =>
    rw [served.after, inductionHypothesis]
    simp [Meaning.afterAll]

/-- Each of the calls was served by the document that the earlier ones left. -/
theorem Serial.served {first last : Shared Doc}
    {calls earlier later : List (Completed Thread Update Query Answer)}
    {completed : Completed Thread Update Query Answer} (serial : Serial meaning first calls last)
    (split : calls = earlier ++ completed :: later) :
    ∃ next, Serves meaning (meaning.afterAll first earlier) completed.call completed.answer next := by
  induction serial generalizing later with
  | nil => simp at split
  | @snoc done middle last final serial served inductionHypothesis =>
    rcases List.eq_nil_or_concat later with rfl | ⟨others, other, rfl⟩
    · obtain ⟨rfl, same⟩ := List.append_inj' split rfl
      obtain rfl : final = completed := by simpa using same
      exact ⟨last, serial.afterAll ▸ served⟩
    · rw [List.concat_eq_append, ← List.cons_append, ← List.append_assoc] at split
      exact inductionHypothesis (List.append_inj' split rfl).1

/-- How far a call has come that found the document as it was before. -/
def Underway (meaning : Meaning Doc Update Query Plan Answer) (before : Shared Doc)
    (call : Call Update Query) (shared : Shared Doc) :
    Standing Doc Update Query Plan Answer → Prop
  | .resting => False
  | .updating update => call = .update update ∧ shared = before
  | .accepted update => call = .update update ∧ shared = before ∧ before.accepting = true
  | .storing document => ∃ update, call = .update update ∧ shared = before ∧
      before.accepting = true ∧ meaning.serialise update = .ok document
  | .querying query => call = .query query ∧ shared = before
  | .asking plan => ∃ query, call = .query query ∧ shared = before ∧
      meaning.resolve query = .ok plan
  | .admitted plan => ∃ query, call = .query query ∧ shared = before ∧
      meaning.resolve query = .ok plan ∧ before.admitting = true
  | .closing => call = .close ∧ shared = before
  | .shutting => call = .close ∧ shared = { before with admitting := false }
  | .decided answer => Serves meaning before call answer shared

/-- A step of a call that is under way shows nothing, or it gives the answer of a plain
document, where no query may give up.

Proof: one case for each point of a call, in which all but the actions of that point are
impossible. The document changes only where the call is settled. -/
theorem underway_step (patient : meaning.timedOut = none)
    (underway : Underway meaning before call shared standing)
    (acted : next meaning shared standing action = some (shared', standing')) (thread : Thread) :
    (sight thread standing action standing' = [] ∧ Underway meaning before call shared' standing') ∨
      ∃ answer, sight thread standing action standing' = [.returned thread answer] ∧
        standing' = .resting ∧ Serves meaning before call answer shared' := by
  cases standing with
  | resting => exact underway.elim
  | updating update =>
    obtain ⟨rfl, rfl⟩ := underway
    cases action with
    | permit =>
      obtain ⟨isOpen, same⟩ := Option.ite_none_right_eq_some.mp acted
      cases same
      exact .inl ⟨rfl, rfl, rfl, isOpen⟩
    | refuse =>
      obtain ⟨shut, same⟩ := Option.ite_none_left_eq_some.mp acted
      cases same
      exact .inl ⟨rfl, .updateRefused _ _ (Bool.eq_false_of_not_eq_true shut)⟩
    | _ => cases acted
  | accepted update =>
    obtain ⟨rfl, rfl, isOpen⟩ := underway
    cases action with
    | permit =>
      cases ended : meaning.serialise update with
      | error answer =>
        simp only [next, ended, Option.some.injEq, Prod.mk.injEq] at acted
        obtain ⟨rfl, rfl⟩ := acted
        exact .inl ⟨rfl, .updateRejected _ _ _ isOpen ended⟩
      | ok document =>
        simp only [next, ended, Option.some.injEq, Prod.mk.injEq] at acted
        obtain ⟨rfl, rfl⟩ := acted
        exact .inl ⟨rfl, update, rfl, rfl, isOpen, ended⟩
    | _ => cases acted
  | storing document =>
    obtain ⟨update, rfl, rfl, isOpen, stored⟩ := underway
    cases action with
    | settle =>
      cases acted
      exact .inl ⟨rfl, .updateStored _ _ _ isOpen stored⟩
    | _ => cases acted
  | querying query =>
    obtain ⟨rfl, rfl⟩ := underway
    cases action with
    | permit =>
      cases ended : meaning.resolve query with
      | error answer =>
        simp only [next, ended, Option.some.injEq, Prod.mk.injEq] at acted
        obtain ⟨rfl, rfl⟩ := acted
        exact .inl ⟨rfl, .queryRejected _ _ _ ended⟩
      | ok plan =>
        simp only [next, ended, Option.some.injEq, Prod.mk.injEq] at acted
        obtain ⟨rfl, rfl⟩ := acted
        exact .inl ⟨rfl, query, rfl, rfl, ended⟩
    | _ => cases acted
  | asking plan =>
    obtain ⟨query, rfl, rfl, resolved⟩ := underway
    cases action with
    | permit =>
      obtain ⟨isOpen, same⟩ := Option.ite_none_right_eq_some.mp acted
      cases same
      exact .inl ⟨rfl, query, rfl, rfl, resolved, isOpen⟩
    | refuse =>
      obtain ⟨shut, same⟩ := Option.ite_none_left_eq_some.mp acted
      cases same
      exact .inl ⟨rfl, .queryRefused _ _ plan resolved (Bool.eq_false_of_not_eq_true shut)⟩
    | _ => cases acted
  | admitted plan =>
    obtain ⟨query, rfl, rfl, resolved, isOpen⟩ := underway
    cases action with
    | settle =>
      cases acted
      exact .inl ⟨rfl, .queryAnswered _ _ _ resolved isOpen⟩
    | refuse =>
      obtain ⟨shut, -⟩ := Option.ite_none_left_eq_some.mp acted
      exact absurd isOpen shut
    | giveUp =>
      obtain ⟨answer, timed, -⟩ := Option.map_eq_some_iff.mp acted
      rw [patient] at timed
      cases timed
    | _ => cases acted
  | closing =>
    obtain ⟨rfl, rfl⟩ := underway
    cases action with
    | settle =>
      cases acted
      exact .inl ⟨rfl, rfl, rfl⟩
    | _ => cases acted
  | shutting =>
    obtain ⟨rfl, rfl⟩ := underway
    cases action with
    | settle =>
      cases acted
      exact .inl ⟨rfl, .closed before⟩
    | _ => cases acted
  | decided answer =>
    cases action with
    | answer =>
      cases acted
      exact .inr ⟨answer, rfl, rfl, underway⟩
    | _ => cases acted

/-- A thread that rests can only call. -/
theorem resting_step (acted : next meaning shared .resting action = some (shared', standing')) :
    ∃ call, action = .call call ∧ shared' = shared ∧ Underway meaning shared call shared' standing' := by
  cases action with
  | call call =>
    refine ⟨call, rfl, ?_⟩
    cases call with
    | update | query | close =>
      cases acted
      exact ⟨rfl, rfl, rfl⟩
  | _ => cases acted

section Histories

variable {done calls : List (Completed Thread Update Query Answer)}
  {completed : Completed Thread Update Query Answer}

/-- The history of calls in turn is put together from those of its parts. -/
@[simp] theorem history_append (done calls : List (Completed Thread Update Query Answer)) :
    history (done ++ calls) = history done ++ history calls :=
  List.flatMap_append

/-- The call that comes next is the next one of the history. -/
theorem next_called {thread : Thread} {call : Call Update Query}
    (shows : history done ++ [.called thread call] <+: history (done ++ calls)) :
    ∃ completed rest, calls = completed :: rest ∧ completed.thread = thread ∧
      completed.call = call := by
  rw [history_append, List.prefix_append_right_inj] at shows
  cases calls with
  | nil => simp [history] at shows
  | cons completed rest =>
    simp only [history, List.flatMap_cons, Completed.events, List.cons_append, List.cons_prefix_cons,
      Event.called.injEq] at shows
    exact ⟨completed, rest, rfl, shows.1.1.symm, shows.1.2.symm⟩

/-- While a call is under way the next event is its answer. -/
theorem next_returned {event : Event Thread Update Query Answer}
    (shows : history done ++ [.called completed.thread completed.call, event] <+:
      history (done ++ completed :: calls)) :
    event = .returned completed.thread completed.answer := by
  rw [history_append, List.prefix_append_right_inj] at shows
  simp only [history, List.flatMap_cons, Completed.events, List.cons_append, List.cons_prefix_cons]
    at shows
  exact shows.2.1

end Histories

/-- Where a run is that has shown some of the calls: between two of them, when all
threads rest, or inside one, when all others do. -/
def Follows (meaning : Meaning Doc Update Query Plan Answer) (first : Shared Doc)
    (calls : List (Completed Thread Update Query Answer))
    (state : Threads.State Thread (Shared Doc) (Standing Doc Update Query Plan Answer))
    (seen : List (Event Thread Update Query Answer)) : Prop :=
  ∃ done rest, calls = done ++ rest ∧
    ((seen = history done ∧ Serial meaning first done state.shared ∧
        ∀ thread, state.threads thread = .resting) ∨
      ∃ before completed later, rest = completed :: later ∧
        seen = history done ++ [.called completed.thread completed.call] ∧
        Serial meaning first done before ∧
        Underway meaning before completed.call state.shared (state.threads completed.thread) ∧
        ∀ thread, thread ≠ completed.thread → state.threads thread = .resting)

variable [DecidableEq Thread] {calls : List (Completed Thread Update Query Answer)} {document : Doc}
  {first : Shared Doc}
  {earlier later : Threads.State Thread (Shared Doc) (Standing Doc Update Query Plan Answer)}
  {label : Thread × Action Update Query} {seen : List (Event Thread Update Query Answer)}

/-- A step that shows the next event of the calls, or nothing, follows them.

Proof: in between two calls only the next of them can begin. Within a call only its own thread
can step, since the others rest, and it goes on or gives its answer. -/
theorem follows_step (patient : meaning.timedOut = none) (follows : Follows meaning first calls earlier seen)
    (stepped : (object meaning document).step earlier label = some later)
    (shows : seen ++ lookAt sight earlier label later <+: history calls) :
    Follows meaning first calls later (seen ++ lookAt sight earlier label later) := by
  obtain ⟨shared', here', acted, rfl⟩ := step_cases stepped
  simp only [lookAt, Function.update_self] at shows ⊢
  obtain ⟨done, rest, rfl, ⟨rfl, serial, resting⟩ |
    ⟨before, completed, further, rfl, rfl, serial, underway, resting⟩⟩ := follows
  · rw [resting label.1] at acted shows ⊢
    obtain ⟨call, called, same, underway⟩ := resting_step acted
    rw [called] at shows ⊢
    obtain ⟨completed, further, rfl, thread, called⟩ := next_called shows
    subst called
    refine ⟨done, _, rfl, .inr ⟨earlier.shared, completed, further, rfl, ?_, serial, ?_, ?_⟩⟩
    · rw [thread]
      rfl
    · simpa only [thread, Function.update_self] using underway
    · intro other different
      rw [thread] at different
      simpa only [Function.update_of_ne different] using resting other
  · by_cases acting : label.1 = completed.thread
    · rw [acting] at acted ⊢
      rcases underway_step patient underway acted completed.thread with ⟨silent, onward⟩ |
        ⟨answer, shown, rested, served⟩
      · rw [silent, List.append_nil]
        refine ⟨done, _, rfl, .inr ⟨before, completed, further, rfl, rfl, serial, ?_, ?_⟩⟩
        · simpa only [Function.update_self] using onward
        · intro other different
          simpa only [Function.update_of_ne different] using resting other different
      · rw [acting, shown, List.append_assoc] at shows
        have same := next_returned shows
        rw [Event.returned.injEq] at same
        subst rested
        rw [shown, same.2]
        refine ⟨done ++ [completed], further, by simp, .inl ⟨?_, ?_, ?_⟩⟩
        · simp [history, Completed.events]
        · exact .snoc serial (same.2 ▸ served)
        · intro other
          by_cases different : other = completed.thread
          · simp only [different, Function.update_self]
          · simpa only [Function.update_of_ne different] using resting other different
    · rw [resting label.1 acting] at acted shows
      obtain ⟨call, called, -, -⟩ := resting_step acted
      rw [called, List.append_assoc] at shows
      cases next_returned shows

/-- The calls of events in which none overlaps another. -/
def inTurn : List (Event Thread Update Query Answer) →
    Option (List (Completed Thread Update Query Answer))
  | [] => some []
  | .called thread call :: .returned other answer :: rest =>
    if thread = other then (inTurn rest).map (⟨thread, call, answer⟩ :: ·) else none
  | _ => none

/-- The events are the history of the calls that were read from them. -/
theorem history_of_inTurn (events : List (Event Thread Update Query Answer))
    (calls : List (Completed Thread Update Query Answer)) (turns : inTurn events = some calls) :
    events = history calls := by
  induction events using inTurn.induct generalizing calls with
  | case1 =>
    cases turns
    rfl
  | case2 thread call answer rest inductionHypothesis =>
    simp only [inTurn, if_true] at turns
    obtain ⟨others, read, rfl⟩ := Option.map_eq_some_iff.mp turns
    rw [inductionHypothesis others read]
    simp [history, Completed.events]
  | case3 thread call other answer rest different =>
    simp [inTurn, different] at turns
  | case4 events unpaired overlapping =>
    rw [inTurn.eq_3 events unpaired overlapping] at turns
    cases turns

/-- A run that has shown a part of the calls follows them: at most one thread does not
rest. -/
theorem follows_of_shows (patient : meaning.timedOut = none)
    {state : Threads.State Thread (Shared Doc) (Standing Doc Update Query Plan Answer)}
    (shown : Shows (object meaning document) anything (lookAt sight)
      (object meaning document).initial seen state)
    (shows : seen <+: history calls) : Follows meaning ⟨document, true, true⟩ calls state seen := by
  refine shown.keeps
    (fun state seen => seen <+: history calls → Follows meaning ⟨document, true, true⟩ calls state seen)
    (fun before label after seen _ follows _ stepped shows =>
      follows_step patient (follows ((List.prefix_append _ _).trans shows)) stepped shows)
    (fun _ => ⟨[], calls, rfl, .inl ⟨rfl, .nil, fun _ => rfl⟩⟩) shows

/-- Calls that do not overlap are served one after the other by a plain document. -/
theorem Seen.serial (patient : meaning.timedOut = none)
    (seen : Seen meaning document (history calls)) :
    ∃ last, Serial meaning ⟨document, true, true⟩ calls last := by
  obtain ⟨last, shown⟩ := seen
  have follows := follows_of_shows patient shown (List.prefix_refl _)
  obtain ⟨done, rest, rfl, ⟨same, serial, -⟩ | ⟨before, completed, further, rfl, same, -⟩⟩ := follows
  · have nothing : history rest = [] := by simpa using same
    cases rest with
    | nil => exact ⟨_, by simpa using serial⟩
    | cons completed rest => simp [history, Completed.events] at nothing
  · simp [history, Completed.events] at same

end SharedDocument
