import OpaPyWasm.Library.Machines
import OpaPyWasm.Library.Threads
import OpaPyWasm.InstancePool
import OpaPyWasm.InstanceOwnership
import OpaPyWasm.CloseProtocol
import OpaPyWasm.PoolSlots
import OpaPyWasm.PoolClosing
import OpaPyWasm.PoolWakeup
import OpaPyWasm.LiveInstances
import OpaPyWasm.Policy
import OpaPyWasm.Library.Effects
import OpaPyWasm.Library.Regions
import OpaPyWasm.Exceptions
import OpaPyWasm.Values
import OpaPyWasm.GuestCalls
import OpaPyWasm.MemoryCodec
import OpaPyWasm.CodecLaws
import OpaPyWasm.FaultReports
import OpaPyWasm.GuestMemory
import OpaPyWasm.WasmtimeRuntime
import OpaPyWasm.Abi
import OpaPyWasm.PolicyInstance
import OpaPyWasm.PooledInstances
import OpaPyWasm.StateIsolation
import OpaPyWasm.PolicyApi
import OpaPyWasm.EscapedFaults
import OpaPyWasm.TypedErrors
import OpaPyWasm.TickerLifetime
import OpaPyWasm.DataVersions
import OpaPyWasm.EpochDeadlines
import OpaPyWasm.Library.Chains
import OpaPyWasm.ExceptionChains
import OpaPyWasm.AmbientErrors
import OpaPyWasm.GuestTrace
import OpaPyWasm.MemoryBounds
import OpaPyWasm.NullPointers
import OpaPyWasm.Library.JsonText
import OpaPyWasm.Library.Utf8
import OpaPyWasm.JsonDocuments
import OpaPyWasm.BuiltinRegistry
import OpaPyWasm.EvaluationBuiltins
import OpaPyWasm.BuiltinDispatch
import OpaPyWasm.ValueCrossing
import OpaPyWasm.TimeLimit
import OpaPyWasm.CreationCounts
import OpaPyWasm.Library.Histories
import OpaPyWasm.RegistryHistory
import OpaPyWasm.StringScan
import OpaPyWasm.ResultLimit
import OpaPyWasm.RuntimeConstruction
import OpaPyWasm.ModuleMemory
import OpaPyWasm.AddressSpace
import OpaPyWasm.Library.Patterns
import OpaPyWasm.PythonText
import OpaPyWasm.PercentFormat
import OpaPyWasm.Sprintf
import OpaPyWasm.SprintfFallback
import OpaPyWasm.SprintfOperands
import OpaPyWasm.SprintfValues
import OpaPyWasm.PolicyConstruction
import OpaPyWasm.ConstructionOutcomes
import OpaPyWasm.Library.Numerals
import OpaPyWasm.SprintfIntegers
import OpaPyWasm.Library.Loops
import OpaPyWasm.ExceptionWalks
import OpaPyWasm.Library.Refinement
import OpaPyWasm.Library.SharedDocument
import OpaPyWasm.ThreadPlaces
import OpaPyWasm.PolicyService
import OpaPyWasm.FreshInstances
import OpaPyWasm.ServedInstances
import OpaPyWasm.ServiceRefinement
import OpaPyWasm.Library.SerialDocument
import OpaPyWasm.ServiceTurns
import OpaPyWasm.Library.Quiescence
import OpaPyWasm.PolicyProgress
import OpaPyWasm.PolicyFinality
import OpaPyWasm.NativeLifecycle
import OpaPyWasm.LoneConstruction
import OpaPyWasm.Library.Utf8Replacement
import OpaPyWasm.HostImports
import OpaPyWasm.PolicyDecisions
import OpaPyWasm.ServiceDecisions
