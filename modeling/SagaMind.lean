import SagaMind.Foundation.KeyedTable
import SagaMind.Foundation.Program
import SagaMind.Foundation.Triple
import SagaMind.Coordinator.Calls
import SagaMind.Models
import SagaMind.StateStore
import SagaMind.Coordinator.Forward
import SagaMind.Coordinator.Recover
import SagaMind.Coordinator.Sequential
import SagaMind.Coordinator.Frame
import SagaMind.CrashRecovery
import SagaMind.Coordinator.Protocol
import SagaMind.Coordinator.Cluster
import SagaMind.JournalProtocol
import SagaMind.ConcurrentRollback
import SagaMind.DuplicateSubmissions
import SagaMind.Foundation.Sessions
import SagaMind.Coordinator.Turns
import SagaMind.PublishedKeys
import SagaMind.Coordinator.Walk
import SagaMind.RollbackTruth
import SagaMind.Foundation.UndoStack
import SagaMind.LifoRestoration
import SagaMind.AllOrNothing
import SagaMind.Contracts.Dsl
import SagaMind.Contracts.Verifier
import SagaMind.Contracts.Semantics
import SagaMind.Contracts.Soundness
import SagaMind.Contracts.Enumeration
import SagaMind.Contracts.Validation
import SagaMind.BoundedProof
import SagaMind.Contracts.Encoding
import SagaMind.CertificateBinding
import SagaMind.ContractRepairs
import SagaMind.RecoverySettles
import SagaMind.Foundation.Lives
import SagaMind.Coordinator.Lifetime
import SagaMind.EscalationAlerts
import SagaMind.FailureMasking
import SagaMind.StatusAgreement
import SagaMind.ApprovalGate
import SagaMind.WaitingWork
import SagaMind.Interfaces
import SagaMind.RollbackReplies
import SagaMind.LiveRecovery
import SagaMind.ExactRollbacks
import SagaMind.ApprovalPauses.Execution
import SagaMind.ApprovalPauses
import SagaMind.Foundation.Redis
import SagaMind.Foundation.Backends
import SagaMind.StateStore.Redis
import SagaMind.StateStore.Postgres
import SagaMind.StateStore.JournalCalls
import SagaMind.StateStore.RedisRecords
import SagaMind.StateStore.RedisMirror
import SagaMind.StateStore.PostgresMirror
import SagaMind.BackendAgreement
import SagaMind.Memory.Consolidation
import SagaMind.TenantIsolation
import SagaMind.Foundation.FileTree
import SagaMind.Sandbox.Policy
import SagaMind.Sandbox.Execution
import SagaMind.Sandbox.Outcomes
import SagaMind.Sandbox.FileContract
import SagaMind.FileContracts
import SagaMind.Preconditions
import SagaMind.GuardedWrites
import SagaMind.Foundation.Windows
import SagaMind.StateStore.DeadLetters
import SagaMind.DeadLetterVisibility
import SagaMind.Foundation.AppendLog
import SagaMind.StateStore.JournalClients
import SagaMind.StateStore.RedisClients
import SagaMind.JournalDensity
import SagaMind.SagaIndex
import SagaMind.InterruptedEffects
import SagaMind.ToolRegistrations
import SagaMind.Foundation.Checklist
import SagaMind.PolicyDecisions
import SagaMind.GraphUpserts
import SagaMind.Speculative.Orchestrator
import SagaMind.SpeculativeRuns
import SagaMind.DensityClusters
import SagaMind.Foundation.ListVectors
import SagaMind.Memory.Distance
import SagaMind.DistanceTiers
import SagaMind.Memory.Decay
import SagaMind.RetentionPaths
import SagaMind.ContractSafety
import SagaMind.FirstViolations
import SagaMind.Coordinator.Attempts
import SagaMind.RejectedSteps
import SagaMind.Foundation.SlidingWindow
import SagaMind.Security
import SagaMind.RateLimits
import SagaMind.SagaRetention
import SagaMind.SchemaAgreement
import SagaMind.Foundation.Scanning
import SagaMind.Verifier.Z3Prover
import SagaMind.Foundation.OrderConstraints
import SagaMind.RepairExtraction
import SagaMind.Verifier.PolicyFormulas
import SagaMind.Verifier.PolicyTexts
import SagaMind.RepairHints
import SagaMind.Coordinator.Takeback
import SagaMind.FileSagas
import SagaMind.Foundation.Json.RoundTrip
import SagaMind.Foundation.Relabel
import SagaMind.Foundation.Words
import SagaMind.Sandbox.Worker
import SagaMind.WorkerBoundary
import SagaMind.Config
import SagaMind.Gateway.Access
import SagaMind.GatewayAccess
import SagaMind.Foundation.Extension
import SagaMind.Coordinator.Tenancy
import SagaMind.Gateway.Endpoints
import SagaMind.GatewayIsolation
import SagaMind.Foundation.Annotations
import SagaMind.StepHistory
import SagaMind.TemporalRetries
