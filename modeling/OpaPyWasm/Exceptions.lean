import Mathlib.Init

/-!
# Exceptions

The typed errors of the package, and the other Python exceptions that its
handlers tell apart. An exception in flight carries its class and text and the
path that starts at it and follows its cause, or else its context, up to the end
or the first repeated exception. Nothing in the handlers looks at more.
-/

namespace OpaPyWasm.Exceptions

/-- The classes below `OpaWasmError`, and `OpaWasmError` itself. -/
inductive OpaError where
  | opaWasm
  | invalidPolicy
  | abi
  | abort
  | evaluation
  | builtin
  | memory
  | poolTimeout
  | policyClosed
  | invalidInput
  | entrypoint
  | data
deriving DecidableEq

/-- The classes an exception may have, a trap with whether its code is
`MEMORY_OUT_OF_BOUNDS`. The last four are not subclasses of `Exception`. -/
inductive Kind where
  | opa (error : OpaError)
  | valueError
  | unicodeEncodeError
  | unicodeDecodeError
  | jsonDecodeError
  | typeError
  | recursionError
  | runtimeError
  | overflowError
  | memoryError
  | trap (outOfBounds : Bool)
  | wasmtimeError
  | otherException
  | keyboardInterrupt
  | systemExit
  | generatorExit
  | otherBaseException
deriving DecidableEq

/-- `isinstance(exc, Exception)`. -/
def Kind.isException : Kind → Bool
  | .keyboardInterrupt => false
  | .systemExit => false
  | .generatorExit => false
  | .otherBaseException => false
  | _ => true

/-- `isinstance(exc, OpaWasmError)`. -/
def Kind.isOpa : Kind → Bool
  | .opa _ => true
  | _ => false

/-- `isinstance(exc, ValueError)`. -/
def Kind.isValueError : Kind → Bool
  | .valueError => true
  | .unicodeEncodeError => true
  | .unicodeDecodeError => true
  | .jsonDecodeError => true
  | _ => false

/-- An exception that `except Exception` catches and that is no typed error. -/
def Kind.isUntyped (kind : Kind) : Bool := kind.isException && !kind.isOpa

/-- One exception on a path. -/
structure Node where
  kind : Kind
  text : String
deriving DecidableEq

/-- An exception in flight. -/
structure Raised where
  kind : Kind
  text : String
  chain : List Node
deriving DecidableEq

/-- The whole path from an exception. -/
def Raised.path (raised : Raised) : List Node := ⟨raised.kind, raised.text⟩ :: raised.chain

/-- `raise OpaXError(text)` with nothing being handled, or `from None`. -/
def opaError (error : OpaError) (text : String) : Raised := ⟨.opa error, text, []⟩

/-- `raise OpaXError(text) from cause`. -/
def opaErrorFrom (error : OpaError) (text : String) (cause : Raised) : Raised :=
  ⟨.opa error, text, cause.path⟩

/-- A typed error is an `Exception`. -/
theorem isException_of_isOpa {kind : Kind} (typed : kind.isOpa = true) :
    kind.isException = true := by
  cases kind <;> first | rfl | cases typed

/-- The part of a path before its first typed error, and that error. -/
def splitTyped : List Node → Option (List Node × Node)
  | [] => none
  | node :: rest =>
    if node.kind.isOpa then some ([], node)
    else (splitTyped rest).map (fun found => (node :: found.1, found.2))

/-- The error found on a path is typed. -/
theorem splitTyped_isOpa {path before : List Node} {typed : Node}
    (found : splitTyped path = some (before, typed)) : typed.kind.isOpa = true := by
  induction path generalizing before with
  | nil => simp [splitTyped] at found
  | cons node rest inductionHypothesis =>
    unfold splitTyped at found
    split at found
    · rename_i isOpa
      obtain ⟨-, rfl⟩ := Prod.mk.inj (Option.some.inj found)
      exact isOpa
    · obtain ⟨⟨before', typed'⟩, earlier, same⟩ := Option.map_eq_some_iff.mp found
      obtain ⟨-, rfl⟩ := Prod.mk.inj same
      exact inductionHypothesis earlier

/-- Untyped exceptions in front of a typed error are what the search passes. -/
theorem splitTyped_append {before after : List Node} {typed : Node}
    (untyped : ∀ node ∈ before, node.kind.isOpa = false) (isOpa : typed.kind.isOpa = true) :
    splitTyped (before ++ typed :: after) = some (before, typed) := by
  induction before with
  | nil => simp [splitTyped, isOpa]
  | cons node rest inductionHypothesis =>
    have here := untyped node List.mem_cons_self
    have later := inductionHypothesis (fun other member => untyped other (List.mem_cons_of_mem _ member))
    simp only [List.cons_append, splitTyped, here, later]
    rfl

/-- `_find_typed_in_chain(exc)` and then `raise typed from exc`: the path of the
typed error leads to `exc` and on to the typed error again. -/
def Raised.typedInChain (raised : Raised) : Option Raised :=
  (splitTyped raised.path).map (fun found => ⟨found.2.kind, found.2.text, found.1⟩)

/-- The error recovered from a path is typed. -/
theorem Raised.typedInChain_isOpa {raised typed : Raised}
    (found : raised.typedInChain = some typed) : typed.kind.isOpa = true := by
  obtain ⟨⟨before, node⟩, split, same⟩ := Option.map_eq_some_iff.mp found
  rw [← same]
  exact splitTyped_isOpa split

/-- The text of a trap that an expired deadline leaves, as the package reads it. -/
def mentionsInterrupt (text : String) : Bool :=
  let lower := text.toLower
  (lower.splitOn "interrupt").length > 1 || (lower.splitOn "epoch").length > 1

/-- `_is_epoch_interrupt(exc)`. -/
def Raised.isEpochInterrupt (raised : Raised) : Bool :=
  raised.path.any (fun node => mentionsInterrupt node.text)

end OpaPyWasm.Exceptions
