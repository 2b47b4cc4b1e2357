import Mathlib.Tactic.Common

/-!
# Core domain models

The saga, step and effect records of `src/models.py` and of the effect journal,
and the exceptions that cross the coordinator. `Args` stands for the
`dict[str, Any]` payloads: the coordinator hands them on and compares them with
`==`, nothing else. Timestamps are left out, as no decision reads them.
-/

namespace SagaMind

set_option autoImplicit false

inductive SagaStatus where
  | pending
  | running
  | awaitingApproval
  | committed
  | compensating
  | rolledBack
  | failed
  | compensationFailed
  deriving DecidableEq

def SagaStatus.terminal : SagaStatus → Bool
  | .committed | .rolledBack | .compensationFailed | .failed => true
  | _ => false

inductive StepStatus where
  | pending
  | running
  | awaitingApproval
  | committed
  | failed
  | compensating
  | rolledBack
  | compensationFailed
  deriving DecidableEq

inductive EffectState where
  | prepared
  | executing
  | applied
  | committed
  | aborted
  | ambiguous
  | compensating
  | compensated
  | compensationFailed
  deriving DecidableEq

def EffectState.value : EffectState → String
  | .prepared => "PREPARED"
  | .executing => "EXECUTING"
  | .applied => "APPLIED"
  | .committed => "COMMITTED"
  | .aborted => "ABORTED"
  | .ambiguous => "AMBIGUOUS"
  | .compensating => "COMPENSATING"
  | .compensated => "COMPENSATED"
  | .compensationFailed => "COMPENSATION_FAILED"

def edge : EffectState → EffectState → Bool
  | .prepared, .executing => true
  | .prepared, .aborted => true
  | .executing, .applied => true
  | .executing, .aborted => true
  | .executing, .ambiguous => true
  | .ambiguous, .applied => true
  | .ambiguous, .aborted => true
  | .applied, .committed => true
  | .applied, .compensating => true
  | .committed, .compensating => true
  | .compensating, .compensated => true
  | .compensating, .compensationFailed => true
  | _, _ => false

/-- One tool invocation with its arguments. -/
structure ActionPayload (Args : Type) where
  toolName : String
  arguments : Args
  deriving DecidableEq

/-- One unit of work inside a saga. -/
structure SagaStep (Args : Type) where
  stepId : String
  stepName : String
  action : ActionPayload Args
  compensation : ActionPayload Args
  invariants : String
  status : StepStatus := .pending
  error : String := ""
  idempotencyKey : Option String := none
  requiresApproval : Bool := false
  approved : Bool := false
  deriving DecidableEq

/-- Python's truth value of an optional string: neither `None` nor `""`. -/
def truthy : Option String → Bool
  | some text => text ≠ ""
  | none => false

/-- What `sandbox.execute` may return: `None`, a plain dictionary, or a
`SandboxResult`. -/
inductive ExecuteResult (Args : Type) where
  | none
  | dict (data : Args)
  | result (success : Bool) (status : String) (data : Args) (error : Option String)
  deriving DecidableEq

namespace ExecuteResult

variable {Args : Type}

/-- `result is None or getattr(result, "success", True) is not True` fails. -/
def succeeded : ExecuteResult Args → Bool
  | .none => false
  | .dict _ => true
  | .result success _ _ _ => success

/-- `getattr(result, "error", None) or getattr(result, "status", "failed result")`. -/
def detail : ExecuteResult Args → String
  | .none => "failed result"
  | .dict _ => "failed result"
  | .result _ status _ error => if truthy error then error.getD "" else status

/-- `_result_data`. A missing result never reaches it. -/
def resultData [Inhabited Args] : ExecuteResult Args → Args
  | .none => default
  | .dict data => data
  | .result _ _ data _ => data

/-- `getattr(result, "data", {})`, which a plain dictionary does not have. -/
def historyData [Inhabited Args] : ExecuteResult Args → Args
  | .none => default
  | .dict _ => default
  | .result _ _ data _ => data

end ExecuteResult

/-- A step as `_serialize_step` stores it in the saga metadata. -/
structure StepRecord (Args : Type) where
  stepId : String
  stepName : String
  action : ActionPayload Args
  compensation : ActionPayload Args
  invariants : String
  status : StepStatus
  error : String
  idempotencyKey : Option String
  requiresApproval : Bool
  approved : Bool
  deriving DecidableEq

structure SagaTransaction (Args : Type) where
  sagaId : String
  tenantId : String
  goal : String
  status : SagaStatus := .running
  completedSteps : List (SagaStep Args) := []
  pendingSteps : List (SagaStep Args) := []
  deriving DecidableEq

/-- One record of the effect journal. -/
structure Effect (Args : Type) where
  sagaId : String
  stepId : String
  seq : Nat
  stepName : String
  action : ActionPayload Args
  compensation : ActionPayload Args
  idempotencyKey : Option String
  state : EffectState
  result : Option Args
  error : Option String
  deriving DecidableEq

/-- The metadata keys the coordinator writes, each present or absent. -/
structure Metadata (Args : Type) where
  goal : Option String := none
  tenantId : Option String := none
  pendingSteps : Option (List (StepRecord Args)) := none
  recovered : Option Bool := none
  error : Option String := none
  failedStep : Option String := none
  deriving DecidableEq

/-- `dict.update`: keys of the second argument win. -/
def Metadata.update {Args : Type} (old new : Metadata Args) : Metadata Args where
  goal := new.goal <|> old.goal
  tenantId := new.tenantId <|> old.tenantId
  pendingSteps := new.pendingSteps <|> old.pendingSteps
  recovered := new.recovered <|> old.recovered
  error := new.error <|> old.error
  failedStep := new.failedStep <|> old.failedStep

def isUuid (text : String) : Bool :=
  text.toList.length = 36 ∧ text.toList.zipIdx.all fun entry =>
    if entry.2 ∈ [8, 13, 18, 23] then entry.1 = '-'
    else entry.1.isDigit || 'a' ≤ entry.1 && entry.1 ≤ 'f'

structure Uuid where
  text : String
  canonical : isUuid text = true
  deriving DecidableEq

/-- Exceptions derived from `Exception`. A process death is not one of them. -/
inductive PyError where
  | coordinator (message : String)
  | journalConflict (message : String)
  | key (message : String)
  /-- Anything a verifier, a sandbox or a resolver raises. -/
  | external (message : String)
  deriving DecidableEq

/-- `str(exc)`; a `KeyError` shows the `repr` of its message. -/
def PyError.text : PyError → String
  | .coordinator message => message
  | .journalConflict message => message
  | .key message => "'" ++ message ++ "'"
  | .external message => message

end SagaMind
