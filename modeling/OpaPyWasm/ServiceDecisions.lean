import OpaPyWasm.PolicyDecisions
import OpaPyWasm.ServiceTurns

/-!
# The policy answers with its decisions

What callers get for a query on a policy is what its module decides: on the entrypoint,
the data of the last `set_data` that was accepted, and the input. The way of an instance
through the pool, the versions of the data and the memory of the guest do not show.
-/

namespace OpaPyWasm.PolicyService

open Exceptions Values Effects GuestCalls MemoryCodec WasmtimeRuntime PolicyInstance Machines Threads
  Refinement JsonDocuments PolicyDecisions

variable {Thread σ : Type} {policy : Deployment σ} {space : Regions.Space σ} {origin : World σ}
  {compiled : PolicyModule} {denotes : Denotation σ} {texts : Value → List UInt8 → Prop}

/-- A policy that was constructed has opened a runtime, that of its probe. -/
theorem opened_of_constructed {setup : Setup σ} {wasmBytes : List UInt8}
    {imports : Except Raised PolicyApi.MemoryImport} {metadata : PolicyApi.Metadata}
    {log : List Fault}
    (constructed : PolicyApi.construct setup wasmBytes imports [] = .ok metadata log) :
    ∃ origin, Opened setup origin := by
  have clean : Ends (PolicyApi.compilePolicy wasmBytes imports) [] (fun _ after => after = [])
      (fun _ _ => True) := by
    unfold PolicyApi.compilePolicy
    apply ends_ite
    · exact fun _ => ends_throw trivial
    intro _
    apply ends_bind
    apply ends_converted
    apply ends_ask
    · intro found _
      cases found with
      | absent => exact ends_throw trivial
      | other => exact ends_throw trivial
      | memory => exact ends_pure rfl
    · exact fun _ _ => trivial
  obtain ⟨_, compiledLog, compiles, rest⟩ := bind_returned constructed
  rw [clean.of_ok compiles] at rest
  obtain ⟨probe, _, built, -⟩ := bind_returned rest
  obtain ⟨origin, _, opened, -, -⟩ := opened_of_built built
  exact ⟨origin, opened⟩

/-- The bytes of a snapshot are a raw document. -/
theorem document_taken (data : Option (JsonBytes policy.setup.json)) :
    Option.Rel (fun document (text : JsonBytes policy.setup.json) =>
        Taken policy.setup.json document text.raw)
      (Deployment.document (data.map JsonBytes.raw)) data := by
  cases data with
  | none => exact .none
  | some text => exact .some ⟨rfl, _, text.loaded⟩

section Guest

variable (runs : Runs policy.setup.guest space policy.setup.json compiled denotes texts)
  (opened : Opened policy.setup origin) (positive : 0 < origin.initialHeapPtr)
  (starts : ∀ guest, Ends policy.setup.guest.startTicker guest (fun _ _ => True) (fun _ _ => False))
include runs opened positive starts

/-- A new instance on the data answers with the decision. -/
theorem freshly_decides {data : Option (JsonBytes policy.setup.json)} {plan : Plan}
    {input : JsonBytes policy.setup.json} (taken : Taken policy.setup.json plan.input input.raw)
    (enough : Suffices policy.setup compiled texts origin.initialHeapPtr plan.entrypointId data
      input) :
    policy.freshly (data.map JsonBytes.raw) plan =
      .ok (compiled.decide plan.entrypointId data input) := by
  have lasts := enough.memoryLasts
  have room : origin.initialHeapPtr + compiled.storingData data ≤ compiled.memory := by omega
  have supplies : Ends (loadData policy.setup (Deployment.document (data.map JsonBytes.raw)))
      { origin with dataVersion := 0 }
      (fun _ after => Holds denotes compiled origin.initialHeapPtr data after)
      (fun _ _ => False) :=
    loadData_supplies runs (document_taken data) enough.dataWithin positive room
  cases load : loadData policy.setup (Deployment.document (data.map JsonBytes.raw))
      { origin with dataVersion := 0 } with
  | error raised after => exact (supplies.of_error load).elim
  | ok _ loaded =>
    obtain ⟨fresh, log, built⟩ := build_of_load_ok opened starts load
    have used : Used policy.setup (Deployment.document (data.map JsonBytes.raw)) fresh :=
      .built built
    rw [← freshly_of_used runs.toBumpGuest opened starts used plan]
    exact used_decides runs opened positive used (document_taken data) taken enough

/-- The document's answer to a plan is the decision, as the caller asked to see it. -/
theorem decide_decides {data : Option (JsonBytes policy.setup.json)} {plan : Plan}
    {input : JsonBytes policy.setup.json} (taken : Taken policy.setup.json plan.input input.raw)
    (enough : Suffices policy.setup compiled texts origin.initialHeapPtr plan.entrypointId data
      input) :
    policy.decide (data.map JsonBytes.raw) plan =
      policy.finish plan.simplified (.ok (compiled.decide plan.entrypointId data input)) := by
  unfold Deployment.decide
  rw [freshly_decides runs opened positive starts taken enough]

section Run

variable [Fintype Thread] [DecidableEq Thread] {blank : World σ}

/-- When calls do not overlap, an evaluation on an open policy, by whichever thread, is
answered with the decision on the document that the calls before it left: that of the last
`set_data` that was accepted. Its entrypoint is one of the policy, its input and the document
are JSON texts within the limits, the memory lasts, and no evaluation is cut short.

Proof: calls in turn are served by a plain document, one after another. The policy is open and
the entrypoint is found, so the answer is the one of a new instance, which is the decision. -/
theorem evaluations_decide
    {events : List (SharedDocument.Event Thread (Option Document) Request Answer)}
    {calls earlier later : List (SharedDocument.Completed Thread (Option Document) Request Answer)}
    {last : State Thread (Shared Thread σ) Local}
    (shown : Shows (service policy blank) calm (lookAt sight) (service policy blank).initial events
      last) (turns : SharedDocument.inTurn events = some calls)
    {thread : Thread} {request : Request} {answer : Answer}
    (split : calls = earlier ++ ⟨thread, .query request, answer⟩ :: later)
    {plan : Plan} (resolved : policy.resolve request = .ok plan)
    {data : Option (JsonBytes policy.setup.json)} {input : JsonBytes policy.setup.json}
    (isOpen : (policy.meaning.afterAll ⟨none, true, true⟩ earlier).admitting = true)
    (stored : (policy.meaning.afterAll ⟨none, true, true⟩ earlier).document =
      data.map JsonBytes.raw)
    (taken : Taken policy.setup.json plan.input input.raw)
    (enough : Suffices policy.setup compiled texts origin.initialHeapPtr plan.entrypointId data
      input) :
    answer = policy.finish plan.simplified
      (.ok (compiled.decide plan.entrypointId data input)) := by
  obtain ⟨final, serial⟩ := SharedDocument.Seen.serial rfl
    (seen_in_turn runs.toBumpGuest opened starts shown turns)
  have plain : SharedDocument.Serial policy.meaning ⟨none, true, true⟩ calls final :=
    SharedDocument.Serial.of_patient serial
  obtain ⟨next, served⟩ := plain.served split
  generalize policy.meaning.afterAll ⟨none, true, true⟩ earlier = before at served isOpen stored
  cases served with
  | queryRejected =>
    rename_i rejected
    have failed : policy.resolve request = .error _ := rejected
    rw [resolved] at failed
    cases failed
  | queryRefused =>
    rename_i shut
    rw [isOpen] at shut
    cases shut
  | queryAnswered =>
    rename_i other found _
    have same : policy.resolve request = .ok other := found
    rw [resolved] at same
    cases same
    rw [stored]
    exact decide_decides runs opened positive starts taken enough

end Run

end Guest

/-- A policy of one instance on the tape with copies, with a borrow timeout. -/
def copyingPolicy : Deployment Tape := { timedPolicy with setup := copyingSetup }

/-- The request of the example. -/
def askedThree : Request := ⟨.bytes threeBytes.raw, none, false⟩

/-- An update to a number, and then the request, by another thread. -/
def storedSeven : List (InstancePool.Caller × Action) :=
  InstancePool.Caller.first.does [.take (.callSetData (some (.bytes sevenBytes.raw)))] ++
  InstancePool.Caller.first.does (List.replicate 4 (.take .go)) ++
  InstancePool.Caller.second.does [.callEvaluate askedThree] ++
  InstancePool.Caller.second.does (List.replicate 18 (.take .go))

/-- The calls are the update and the request. -/
def isStoredSeven : List (SharedDocument.Completed InstancePool.Caller (Option Document) Request
    Answer) → Bool
  | [⟨_, .update (some (.bytes raw)), _⟩, ⟨_, .query ⟨.bytes given, none, false⟩, _⟩] =>
    raw == sevenBytes.raw && given == threeBytes.raw
  | _ => false

/-- Such calls have that form. -/
theorem storedSeven_form
    {calls : List (SharedDocument.Completed InstancePool.Caller (Option Document) Request Answer)}
    (known : isStoredSeven calls = true) :
    ∃ updater asker stored answer, calls = [⟨updater, .update (some (.bytes sevenBytes.raw)), stored⟩,
      ⟨asker, .query askedThree, answer⟩] := by
  unfold isStoredSeven at known
  split at known
  · simp only [Bool.and_eq_true, beq_iff_eq] at known
    obtain ⟨rfl, rfl⟩ := known
    exact ⟨_, _, _, _, rfl⟩
  · cases known

/-- The request is answered from the update. -/
theorem evaluations_decide_updated :
    ∃ events last updater asker stored,
      Shows (service copyingPolicy copyingBuilt) calm (lookAt sight)
        (service copyingPolicy copyingBuilt).initial events last ∧
      SharedDocument.inTurn events = some [⟨updater, .update (some (.bytes sevenBytes.raw)), stored⟩,
        (⟨asker, .query askedThree, .value (.int 7)⟩ :
          SharedDocument.Completed InstancePool.Caller (Option Document) Request Answer)] := by
  have watched : ((watch (service copyingPolicy copyingBuilt) calm (lookAt sight)
      (service copyingPolicy copyingBuilt).initial storedSeven).bind (fun seen =>
        (SharedDocument.inTurn seen.1).map isStoredSeven)) = some true := by
    decide +kernel
  obtain ⟨⟨events, last⟩, executed, paired⟩ := Option.bind_eq_some_iff.mp watched
  obtain ⟨calls, turns, known⟩ := Option.map_eq_some_iff.mp paired
  obtain ⟨updater, asker, stored, answer, rfl⟩ := storedSeven_form known
  have shown := watch_shows _ _ _ _ executed
  obtain ⟨origin, opened, located⟩ := copying_opened
  have positive : 0 < origin.initialHeapPtr := by omega
  have resolved : copyingPolicy.resolve askedThree = .ok ⟨.bytes threeBytes.raw, 0, false⟩ := rfl
  have taken : Taken copyingPolicy.setup.json (.bytes threeBytes.raw) threeBytes.raw :=
    ⟨rfl, _, threeBytes.loaded⟩
  have enough := copying_suffices 0
  rw [← located] at enough
  have decided := @evaluations_decide InstancePool.Caller Tape copyingPolicy tapeSpace origin
    copyingModule textAt _ copying_runs opened positive (fun _ => trivial) _ _ copyingBuilt events
    _ [⟨updater, .update (some (.bytes sevenBytes.raw)), stored⟩] [] last shown turns asker
    askedThree answer rfl _ resolved (some sevenBytes) threeBytes rfl rfl taken enough
  rw [decided] at turns
  exact ⟨events, last, updater, asker, stored, shown, turns⟩

end OpaPyWasm.PolicyService
