import OpaPyWasm.Exceptions

/-!
# The ABI check

`OpaAbi` accepts a module whose exports are those of a supported OPA policy. It
reads the version globals, looks for the required exports and for `opa_eval`, and
compares the signature of every export that is called. Every rejection is a typed
error.
-/

namespace OpaPyWasm.Abi

open Exceptions

/-- The exports of an instance. A global that is no integer has no value. -/
structure Exports where
  globals : List (String × Option Int)
  functions : List (String × List String × List String)
  others : List String

/-- `has_export`. -/
def Exports.hasExport (exports : Exports) (name : String) : Bool :=
  exports.globals.any (·.1 == name) || exports.functions.any (·.1 == name) ||
    exports.others.contains name

/-- The attributes of `OpaAbiSpec`. -/
structure OpaAbiSpec where
  minMajor : Int
  maxMajor : Int
  minMinorForEval : Int
  requiredExports : List String

/-- `_REQUIRED_EXPORTS`. -/
def requiredExports : List String :=
  ["opa_malloc", "opa_free", "opa_json_parse", "opa_json_dump", "opa_heap_ptr_get",
    "opa_heap_ptr_set", "entrypoints", "builtins"]

/-- `_EXPECTED_SIGNATURES`. -/
def expectedSignatures : List (String × List String × List String) :=
  [("opa_malloc", ["i32"], ["i32"]),
    ("opa_free", ["i32"], []),
    ("opa_json_parse", ["i32", "i32"], ["i32"]),
    ("opa_json_dump", ["i32"], ["i32"]),
    ("opa_heap_ptr_get", [], ["i32"]),
    ("opa_heap_ptr_set", ["i32"], []),
    ("entrypoints", [], ["i32"]),
    ("builtins", [], ["i32"]),
    ("opa_eval", ["i32", "i32", "i32", "i32", "i32", "i32", "i32"], ["i32"])]

/-- `OpaAbiSpec()`. -/
def defaultSpec : OpaAbiSpec := ⟨1, 1, 2, requiredExports⟩

/-- `repr` of a tuple of value types. -/
def tupleRepr (types : List String) : String :=
  match types with
  | [] => "()"
  | [single] => "('" ++ single ++ "',)"
  | several => "(" ++ ", ".intercalate (several.map (fun name => "'" ++ name ++ "'")) ++ ")"

/-- The minor version of `_read_version`: absent before ABI 1.1. -/
def readMinor (exports : Exports) : Option Int :=
  match exports.globals.find? (·.1 == "opa_wasm_abi_minor_version") with
  | none => some 0
  | some (_, value?) => value?

/-- `_read_version`. -/
def readVersion (exports : Exports) : Except Raised (Int × Int) :=
  match exports.globals.find? (·.1 == "opa_wasm_abi_version") with
  | none => .error (opaError .abi
      "policy is missing the 'opa_wasm_abi_version' ABI global; not an OPA policy")
  | some (_, major?) =>
    match major?, readMinor exports with
    | some major, some minor => .ok (major, minor)
    | _, _ => .error (opaError .abi "OPA ABI version globals are not integers")

/-- `check_version`. -/
def checkVersion (spec : OpaAbiSpec) (major minor : Int) : Except Raised PUnit :=
  if spec.minMajor ≤ major ∧ major ≤ spec.maxMajor then .ok ⟨⟩
  else .error (opaError .abi
    s!"unsupported OPA Wasm ABI major version {major}.{minor}; this SDK supports {spec.minMajor}.x")

/-- `_validate_required_exports`. -/
def validateRequiredExports (spec : OpaAbiSpec) (exports : Exports) (major minor : Int) :
    Except Raised PUnit :=
  match spec.requiredExports.filter (fun name => !exports.hasExport name) with
  | [] => .ok ⟨⟩
  | missing => .error (opaError .abi ("policy is missing required OPA ABI export(s): " ++
      ", ".intercalate (missing.mergeSort (fun first second => decide (first ≤ second))) ++
      s!" (ABI {major}.{minor})"))

/-- One export of `_validate_export_signatures`. -/
def validateSignature (exports : Exports) (expected : String × List String × List String) :
    Except Raised PUnit :=
  if !exports.hasExport expected.1 then .ok ⟨⟩
  else
    match exports.functions.find? (·.1 == expected.1) with
    | none => .error (opaError .invalidPolicy s!"export '{expected.1}' is not a function")
    | some (name, params, results) =>
      if params = expected.2.1 ∧ results = expected.2.2 then .ok ⟨⟩
      else .error (opaError .abi (s!"OPA export '{name}' has unexpected signature " ++
        s!"{tupleRepr params}->{tupleRepr results}; expected " ++
        s!"{tupleRepr expected.2.1}->{tupleRepr expected.2.2}"))

/-- `OpaAbi.__init__`: the detected version of an accepted module. -/
def openAbi (spec : OpaAbiSpec) (exports : Exports) : Except Raised (Int × Int) := do
  let version ← readVersion exports
  checkVersion spec version.1 version.2
  validateRequiredExports spec exports version.1 version.2
  if exports.hasExport "opa_eval" ∧ spec.minMinorForEval ≤ version.2 then do
    let _ ← expectedSignatures.mapM (validateSignature exports)
    pure version
  else .error (opaError .abi (s!"policy ABI {version.1}.{version.2} does not expose the opa_eval " ++
    "fast path (requires ABI >= 1.2 with an 'opa_eval' export); this SDK does not " ++
    "implement the eval-context fallback"))

/-- A step of the check raises nothing but typed errors. -/
def RaisesTyped {α : Type} (outcome : Except Raised α) : Prop :=
  ∀ raised, outcome = .error raised → raised.kind.isOpa = true

/-- A call that returns raises nothing. -/
theorem RaisesTyped.ok {α : Type} (value : α) : RaisesTyped (.ok value) := by
  intro raised failed
  cases failed

/-- A call that raises an error of the package raises a typed one. -/
theorem RaisesTyped.error {α : Type} (error : OpaError) (text : String) :
    RaisesTyped (.error (opaError error text) : Except Raised α) := by
  intro raised failed
  cases failed
  rfl

/-- Two steps in a row raise what one of them raises. -/
theorem RaisesTyped.bind {α β : Type} {outcome : Except Raised α} {next : α → Except Raised β}
    (first : RaisesTyped outcome) (second : ∀ value, RaisesTyped (next value)) :
    RaisesTyped (outcome >>= next) := by
  intro raised failed
  cases ended : outcome with
  | ok value =>
    rw [ended] at failed
    exact second value raised failed
  | error other =>
    rw [ended] at failed
    cases failed
    exact first raised ended

/-- Every rejection of a module by the ABI check is a typed error. -/
theorem openAbi_typed (spec : OpaAbiSpec) (exports : Exports) :
    RaisesTyped (openAbi spec exports) := by
  have version : RaisesTyped (readVersion exports) := by
    unfold readVersion
    split
    · exact .error _ _
    · split <;> first | exact .ok _ | exact .error _ _
  have signature : ∀ expected, RaisesTyped (validateSignature exports expected) := by
    intro expected
    unfold validateSignature
    repeat' split
    all_goals first | exact .ok _ | exact .error _ _
  have signatures : ∀ names, RaisesTyped (List.mapM (validateSignature exports) names) := by
    intro names
    induction names with
    | nil => exact .ok _
    | cons name rest inductionHypothesis =>
      rw [List.mapM_cons]
      exact .bind (signature name) (fun _ => .bind inductionHypothesis (fun _ => .ok _))
  refine .bind version (fun found => .bind ?_ (fun _ => .bind ?_ (fun _ => ?_)))
  · unfold checkVersion
    split <;> first | exact .ok _ | exact .error _ _
  · unfold validateRequiredExports
    split <;> first | exact .ok _ | exact .error _ _
  · split
    · exact .bind (signatures expectedSignatures) (fun _ => .ok _)
    · exact .error _ _

end OpaPyWasm.Abi
