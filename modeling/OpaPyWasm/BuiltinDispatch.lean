import OpaPyWasm.PolicyInstance

/-!
# The dispatch of host builtins

While the guest evaluates it may call `opa_builtinN`, which lands in `_dispatch_builtin` of
the instance: the id is resolved to a name and the name to a callable, the arguments are
decoded one after another, and the result is encoded into the guest's memory. What fails on
the way is raised as `OpaBuiltinError`.
-/

namespace OpaPyWasm.BuiltinDispatch

open Exceptions Values Effects GuestCalls MemoryCodec PolicyInstance

/-- A registered callable, by what it returns or raises on its arguments. -/
abbrev Builtin := List Value → Except Raised Value

/-- A snapshot of the registry. -/
abbrev Snapshot := Text → Option Builtin

/-- A name inside a message. -/
def display (name : Text) : String := String.ofList (name.map Char.ofNat)

/-- `_builtin_id_to_name.get`: where two names have one id, the later one has it. -/
def builtinName (names : List (Int × Text)) (builtinId : Int) : Option Text :=
  names.reverse.lookup builtinId

/-- An `except` pair of the dispatch: `OpaBuiltinError` passes, anything else becomes one. -/
def asBuiltinError {σ α : Type} (body : Py σ α) (text : Raised → String) : Py σ α :=
  exceptFor Kind.isException body (fun raised =>
    if raised.kind = .opa .builtin then throw raised
    else throw (opaErrorFrom .builtin (text raised) raised))

variable {σ : Type} (setup : Setup σ) (repr : Text → String) (snapshot : Snapshot)

/-- The arguments, in order. -/
def decodeArguments (kind : String) : List Int → Py σ (List Value)
  | [] => pure []
  | addr :: rest => do
    let value ← opaValueToPython setup.guest setup.json setup.limits .evaluation addr kind
    let others ← decodeArguments kind rest
    pure (value :: others)

/-- `_dispatch_builtin` on a name and its callable. -/
def callBuiltin (name : Text) (fn : Builtin) (argAddrs : List Int) : Py σ Int := do
  let args ← asBuiltinError (decodeArguments setup ("builtin:" ++ display name ++ ":arg") argAddrs)
    (fun raised => "builtin " ++ repr name ++ ": failed to decode arguments: " ++ raised.text)
  let result ← asBuiltinError (fromExcept (fn args))
    (fun raised => "builtin " ++ repr name ++ " raised: " ++ raised.text)
  asBuiltinError
    (pythonObjectToOpaValue setup.guest setup.json .evaluation result setup.limits.maxResultBytes
      ("builtin:" ++ display name ++ ":result"))
    (fun raised => "builtin " ++ repr name ++ ": result is not JSON-compatible: " ++ raised.text)

/-- `_dispatch_builtin`. -/
def dispatchBuiltin (builtinId : Int) (argAddrs : List Int) : Py σ Int := do
  let names ← field World.builtinIdToName
  match builtinName names builtinId with
  | none => throw (opaError .builtin s!"policy invoked unknown builtin id {builtinId}")
  | some name =>
    match snapshot name with
    | none => throw (opaError .builtin ("policy requires builtin " ++ repr name ++
        " but it is not registered; register it via OpaWasmPolicy.register_builtin"))
    | some fn => callBuiltin setup repr name fn argAddrs

/-- What such an `except` pair raises is an `OpaBuiltinError`, or no `Exception`. What was
raised inside stays on its chain. -/
theorem asBuiltinError_raises {α : Type} {body : Py σ α} {text : Raised → String}
    {world : World σ} {returned : α → World σ → Prop} {raised : Raised → World σ → Prop}
    (ends : Ends body world returned raised) :
    Ends (asBuiltinError body text) world returned
      (fun error after => ∃ inner, raised inner after ∧ inner.path <:+ error.path ∧
        (error.kind = .opa .builtin ∨ error = inner ∧ inner.kind.isException = false)) := by
  apply ends_exceptFor
  apply ends.mono
  · exact fun _ _ => id
  · intro inner after holds
    constructor
    · intro caught
      apply ends_ite
      · exact fun typed => ends_throw ⟨inner, holds, List.suffix_rfl, .inl typed⟩
      · exact fun _ => ends_throw ⟨inner, holds, List.suffix_cons _ _, .inl rfl⟩
    · exact fun uncaught => ⟨inner, holds, List.suffix_rfl, .inr ⟨rfl, uncaught⟩⟩

end OpaPyWasm.BuiltinDispatch
