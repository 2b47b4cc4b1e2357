import SagaMind.Coordinator.Forward

/-!
# Replies of the two interfaces

The REST endpoint that rejects a step and the gRPC method that submits one,
behind their access checks. Both tell the caller a status that they take from
the result of the coordinator call, not from the saga. `uuid.uuid4()` is a
parameter.
-/

namespace SagaMind

open CallProgram KeyedTable Coordinator

set_option autoImplicit false

variable {Args : Type}

/-- What the caller gets: a status, or an error of the transport. -/
inductive Reply where
  | status (value : SagaStatus)
  | failure (code : Nat) (detail : String)
  deriving DecidableEq

structure StepProposal (Args : Type) where
  sagaId : String
  stepName : String
  toolName : String
  arguments : Args
  compensationTool : String
  compensationArguments : Args
  invariants : String

/-- `_proposal_to_step`. It asks for no approval and carries no key. -/
def proposalToStep (stepId : String) (request : StepProposal Args) : SagaStep Args where
  stepId := stepId
  stepName := request.stepName
  action := ⟨request.toolName, request.arguments⟩
  compensation := ⟨request.compensationTool, request.compensationArguments⟩
  invariants := request.invariants

/-- The status that `get_saga_status` reports. -/
def getSagaStatus (memory : Memory Args) (sagaId : String) : Option SagaStatus :=
  (memory.active.find? sagaId).map (·.status)

namespace Coordinator

def rejectSagaStep (self : Coordinator) (sagaId : String) : Action Args Reply := do
  match ← onMemory (.lookupSaga sagaId) with
  | none => pure (.failure 404 "Saga not found.")
  | some _ =>
      Program.attempt (do
        let _ ← self.rejectPending sagaId
        pure (.status .rolledBack))
        fun error => match error with
          | .coordinator message => pure (.failure 409 message)
          | other => .raise other

def submitStep [DecidableEq Args] [Inhabited Args] (self : Coordinator) (stepId : String)
    (request : StepProposal Args) : Action Args Reply := do
  match ← onMemory (.lookupSaga request.sagaId) with
  | none => pure (.failure 5 "Saga not found.")
  | some _ =>
      let ok ← self.executeSaga request.sagaId [proposalToStep stepId request]
      pure (.status (if ok then .committed else .rolledBack))

end Coordinator

end SagaMind
