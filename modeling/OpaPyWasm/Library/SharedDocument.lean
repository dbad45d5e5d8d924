import OpaPyWasm.Library.Refinement

/-!
# A document that threads replace and query

The object is one document. An update replaces it, a query is answered from it,
and closing the object ends both. A call takes effect in single steps between its
call and its return: an update replaces the document at one moment, and the answer
to a query is decided at one moment, from the document of that moment.

An update or a query that was admitted before the object was closed may still take
effect. Closing has two moments: at the first it stops admitting queries, at the
second it stops accepting updates. What an update stores, which queries make sense
and what their answers are is a parameter.
-/

namespace SharedDocument

open Machines Threads Refinement

universe u v w x y z
variable {Thread : Type u} {Doc : Type v} {Update : Type w} {Query : Type x} {Plan : Type y}
  {Answer : Type z}

/-- What the calls mean. An update is serialised to a document and a query is
resolved to a plan, or else they are answered at once. A query may give up where
there is an answer for that. -/
structure Meaning (Doc : Type v) (Update : Type w) (Query : Type x) (Plan : Type y)
    (Answer : Type z) where
  serialise : Update → Except Answer Doc
  resolve : Query → Except Answer Plan
  decide : Doc → Plan → Answer
  done : Answer
  refused : Answer
  timedOut : Option Answer

/-- What a thread calls. -/
inductive Call (Update : Type w) (Query : Type x) where
  | update (update : Update)
  | query (query : Query)
  | close
deriving DecidableEq

/-- How far a thread has come with its call. -/
inductive Standing (Doc : Type v) (Update : Type w) (Query : Type x) (Plan : Type y)
    (Answer : Type z) where
  | resting
  | updating (update : Update)
  | accepted (update : Update)
  | storing (document : Doc)
  | querying (query : Query)
  | asking (plan : Plan)
  | admitted (plan : Plan)
  | closing
  | shutting
  | decided (answer : Answer)

/-- The document, whether queries are admitted, and whether updates are accepted. -/
structure Shared (Doc : Type v) where
  document : Doc
  admitting : Bool
  accepting : Bool

/-- What a thread does next. -/
inductive Action (Update : Type w) (Query : Type x) where
  | call (call : Call Update Query)
  | permit
  | settle
  | refuse
  | giveUp
  | answer

/-- One step of a call. -/
def next (meaning : Meaning Doc Update Query Plan Answer) (shared : Shared Doc) :
    Standing Doc Update Query Plan Answer → Action Update Query →
      Option (Shared Doc × Standing Doc Update Query Plan Answer)
  | .resting, .call (.update update) => some (shared, .updating update)
  | .resting, .call (.query query) => some (shared, .querying query)
  | .resting, .call .close => some (shared, .closing)
  | .updating update, .permit => if shared.accepting then some (shared, .accepted update) else none
  | .updating _, .refuse =>
    if shared.accepting then none else some (shared, .decided meaning.refused)
  | .accepted update, .permit =>
    match meaning.serialise update with
    | .error answer => some (shared, .decided answer)
    | .ok document => some (shared, .storing document)
  | .storing document, .settle =>
    some ({ shared with document := document }, .decided meaning.done)
  | .querying query, .permit =>
    match meaning.resolve query with
    | .error answer => some (shared, .decided answer)
    | .ok plan => some (shared, .asking plan)
  | .asking plan, .permit => if shared.admitting then some (shared, .admitted plan) else none
  | .asking _, .refuse =>
    if shared.admitting then none else some (shared, .decided meaning.refused)
  | .admitted plan, .settle => some (shared, .decided (meaning.decide shared.document plan))
  | .admitted _, .refuse =>
    if shared.admitting then none else some (shared, .decided meaning.refused)
  | .admitted _, .giveUp => meaning.timedOut.map (fun answer => (shared, .decided answer))
  | .closing, .settle => some ({ shared with admitting := false }, .shutting)
  | .shutting, .settle => some ({ shared with accepting := false }, .decided meaning.done)
  | .decided _, .answer => some (shared, .resting)
  | _, _ => none

/-- What the callers see: which calls are made, and which answers they get. -/
inductive Event (Thread : Type u) (Update : Type w) (Query : Type x) (Answer : Type z) where
  | called (thread : Thread) (call : Call Update Query)
  | returned (thread : Thread) (answer : Answer)

/-- A step shows a call or an answer, or nothing. -/
def sight : Sight Thread (Standing Doc Update Query Plan Answer) (Action Update Query)
    (Event Thread Update Query Answer)
  | thread, _, .call call, _ => [.called thread call]
  | thread, .decided answer, .answer, _ => [.returned thread answer]
  | _, _, _, _ => []

/-- The document before the first call. -/
def start (document : Doc) :
    Threads.State Thread (Shared Doc) (Standing Doc Update Query Plan Answer) where
  shared := ⟨document, true, true⟩
  threads := fun _ => .resting

/-- The object called by any number of threads. -/
def object [DecidableEq Thread] (meaning : Meaning Doc Update Query Plan Answer) (document : Doc) :
    Machine (Threads.State Thread (Shared Doc) (Standing Doc Update Query Plan Answer))
      (Thread × Action Update Query) :=
  machine (fun _ => next meaning) (start document)

/-- Every sequence of calls and answers that the threads may see. -/
def Seen [DecidableEq Thread] (meaning : Meaning Doc Update Query Plan Answer) (document : Doc)
    (events : List (Event Thread Update Query Answer)) : Prop :=
  ∃ last, Shows (object meaning document) anything (lookAt sight)
    (object meaning document).initial events last

end SharedDocument
