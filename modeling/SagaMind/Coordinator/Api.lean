import SagaMind.Coordinator.Frame

/-!
# The calls an operator makes

The entry points of a coordinator as one type. Every one but `recover` works
on a single saga.
-/

namespace SagaMind

open CallProgram Coordinator

set_option autoImplicit false

variable {Args World : Type}

inductive ApiCall (Args : Type) where
  | start (sagaId goal tenantId : String)
  | execute (sagaId : String) (steps : List (SagaStep Args))
  | resume (sagaId : String)
  | reject (sagaId : String)
  | recover

namespace ApiCall

def sagaId? : ApiCall Args → Option String
  | .start sagaId _ _ => some sagaId
  | .execute sagaId _ => some sagaId
  | .resume sagaId => some sagaId
  | .reject sagaId => some sagaId
  | .recover => none

variable [DecidableEq Args] [Inhabited Args]

def program (self : Coordinator) : ApiCall Args → Action Args Unit
  | .start sagaId goal tenantId => self.startTransactionLog sagaId goal tenantId
  | .execute sagaId steps => (self.executeSaga sagaId steps).void
  | .resume sagaId => (self.resumeAfterApproval sagaId).void
  | .reject sagaId => (self.rejectPending sagaId).void
  | .recover => self.recover.void

theorem confined_program (self : Coordinator) {request : ApiCall Args} {sagaId : String}
    (own : request.sagaId? = some sagaId) :
    Uses (ConfinedTo sagaId) (request.program self) := by
  cases request with
  | start owner goal tenantId =>
      obtain rfl := Option.some.inj own
      exact self.confined_start_transaction_log goal tenantId
  | execute owner steps =>
      obtain rfl := Option.some.inj own
      exact conforms_bind (self.confined_execute_saga steps) fun _ => conforms_pure _
  | resume owner =>
      obtain rfl := Option.some.inj own
      exact conforms_bind self.confined_resume_after_approval fun _ => conforms_pure _
  | reject owner =>
      obtain rfl := Option.some.inj own
      exact conforms_bind self.confined_reject_pending fun _ => conforms_pure _
  | recover => simp [sagaId?] at own

end ApiCall

end SagaMind
