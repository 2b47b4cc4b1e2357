import SagaMind.Coordinator.Calls

/-!
# The saga coordinator: execution and rollback

`SagaTransactionCoordinator` without `recover`. Every method is a program over
the coordinator's calls. `completed_steps` is the list object of the saga, so
it is read where the source iterates it. Step callbacks, metrics, tracing and
the fault injector are left out; a crash may strike between any two calls.
-/

namespace SagaMind

open CallProgram

set_option autoImplicit false

variable {Args : Type}

/-- What `db_client` is: nothing, a store without an effect journal, or a
`SagaStateStore`. -/
inductive StoreKind where
  | absent
  | legacy
  | journaled
  deriving DecidableEq

/-- The configuration of one coordinator: its store, its retention bound, and
which optional methods its sandbox has. -/
structure Coordinator where
  store : StoreKind
  maxActiveSagas : Nat := 10000
  validates : Bool := true
  resolvesEffects : Bool := true
  executesIdempotently : Bool := true
  resolvesCompensations : Bool := true
  deriving DecidableEq

/-- `if self.db`. -/
def Coordinator.hasStore (self : Coordinator) : Bool := self.store ≠ .absent

/-- `hasattr(self.db, "prepare_effect")` and `hasattr(self.db, "get_effect")`. -/
def Coordinator.journals (self : Coordinator) : Bool := self.store = .journaled

section Wrappers

def onMemory (request : MemoryCall Args) : Action Args request.Answer :=
  @Program.perform (coordinatorFace Args) (.memory request)

def onStore (request : StoreCall Args) : Action Args request.Answer :=
  @Program.perform (coordinatorFace Args) (.store request)

def onOutside (request : OutsideCall Args) : Action Args request.Answer :=
  @Program.perform (coordinatorFace Args) (.outside request)

end Wrappers

/-- An exception inside the `try` of a step, with the two local flags its
handler reads. -/
structure StepFault where
  error : PyError
  journaled : Bool
  executionAmbiguous : Bool

/-- Run a call of the `try` block while the locals have these values. -/
def flagged {Value : Type} (journaled executionAmbiguous : Bool) (action : Action Args Value) :
    Program (coordinatorFace Args) StepFault Value :=
  action.attempt fun error => .raise { error, journaled, executionAmbiguous }

namespace Coordinator

def serializeStep (step : SagaStep Args) : StepRecord Args where
  stepId := step.stepId
  stepName := step.stepName
  action := step.action
  compensation := step.compensation
  invariants := step.invariants
  status := step.status
  error := step.error
  idempotencyKey := step.idempotencyKey
  requiresApproval := step.requiresApproval
  approved := step.approved

/-- `if self.db: self.db.write_transaction_state(...)`. -/
def writeStatus (self : Coordinator) (sagaId : String) (status : SagaStatus)
    (metadata : Metadata Args) : Action Args Unit :=
  if self.hasStore then onStore (.writeTransactionState sagaId status metadata) else pure ()

def startTransactionLog (self : Coordinator) (sagaId goal tenantId : String) :
    Action Args Unit := do
  let known ← onMemory (.lookupSaga sagaId)
  if known.isSome then
    .raise (.coordinator ("Saga '" ++ sagaId ++ "' already exists."))
  else
    onMemory (.registerSaga { sagaId, tenantId, goal, status := .running })
    self.writeStatus sagaId .running { goal := some goal, tenantId := some tenantId }

def deadLetterRecovery (sagaId stepName error : String) : Action Args Unit := do
  onStore (.writeTransactionState sagaId .compensationFailed
    { recovered := some false, error := some error, failedStep := some stepName })
  onStore (.pushDeadLetter sagaId stepName error)

/-- Record the failed compensation in the journal; an exception is swallowed. -/
def recordCompensationFailure (self : Coordinator) (sagaId stepId error : String) :
    Action Args Unit :=
  if self.journals then
    Program.attempt (do
      let effect ← onStore (.getEffect sagaId stepId)
      if effect.state = .compensating then
        let _ ← onStore (.transitionEffect sagaId stepId [.compensating] .compensationFailed none
          (some error))
        pure ()
      else pure ())
      fun _ => pure ()
  else pure ()

def handleCompensationFailure (self : Coordinator) (sagaId : String) (step : SagaStep Args)
    (error : String) : Action Args Unit := do
  onMemory (.setStatusIfActive sagaId .compensationFailed)
  if self.hasStore then
    onStore (.writeTransactionState sagaId .compensationFailed
      { failedStep := some step.stepName })
    self.recordCompensationFailure sagaId step.stepId error
    onStore (.pushDeadLetter sagaId step.stepName error)
  else pure ()

/-- Claim the record of a step for compensation. A record that is already
`COMPENSATING` passes as well. -/
def markCompensating (self : Coordinator) (sagaId stepId : String) : Action Args Unit :=
  if self.journals then do
    let effect ← onStore (.getEffect sagaId stepId)
    if effect.state = .applied ∨ effect.state = .committed then
      let _ ← onStore (.transitionEffect sagaId stepId [.applied, .committed] .compensating none
        none)
      pure ()
    else if effect.state = .compensating then pure ()
    else .raise (.coordinator ("Cannot compensate effect " ++ stepId ++ " in state " ++
      effect.state.value))
  else pure ()

def markCompensated (self : Coordinator) (sagaId stepId : String) : Action Args Unit :=
  if self.journals then do
    let _ ← onStore (.transitionEffect sagaId stepId [.compensating] .compensated none none)
    pure ()
  else pure ()

/-- The `try` body of one rollback iteration; `true` means the loop goes on. -/
def compensateStep (self : Coordinator) (sagaId : String) (step : SagaStep Args) :
    Action Args Bool := do
  self.markCompensating sagaId step.stepId
  let succeeded ← onOutside (.executeCompensation sagaId (some step.stepId) step.compensation)
  if succeeded then
    self.markCompensated sagaId step.stepId
    pure true
  else
    self.handleCompensationFailure sagaId step "Compensation returned False"
    pure false

/-- The loop of `execute_compensations` over the reversed list, and what
follows it. -/
def rollback (self : Coordinator) (sagaId : String) : List (SagaStep Args) → Action Args Unit
  | [] => do
      onMemory (.setStatusIfActive sagaId .rolledBack)
      self.writeStatus sagaId .rolledBack {}
  | step :: rest => do
      let goOn ← (self.compensateStep sagaId step).attempt fun error => do
        self.handleCompensationFailure sagaId step error.text
        pure false
      if goOn then self.rollback sagaId rest else pure ()

def executeCompensations (self : Coordinator) (sagaId : String)
    (completedSteps : Action Args (List (SagaStep Args))) : Action Args Unit := do
  self.writeStatus sagaId .compensating {}
  let steps ← completedSteps
  self.rollback sagaId steps.reverse

/-- `saga.completed_steps`, read at the time of the call. -/
def completedSteps (sagaId : String) : Action Args (List (SagaStep Args)) :=
  onMemory (.completedSteps sagaId)

/-- The approval gate: `steps` is the submitted list as the loop left it. -/
def awaitApproval [DecidableEq Args] (self : Coordinator) (sagaId : String)
    (steps : List (SagaStep Args)) (step : SagaStep Args) : Action Args Unit := do
  onMemory (.setStatus sagaId .awaitingApproval)
  let pendingSteps := steps.drop (steps.idxOf step)
  onMemory (.setPending sagaId pendingSteps)
  self.writeStatus sagaId .awaitingApproval
    { pendingSteps := some (pendingSteps.map serializeStep) }

def markExecuting (self : Coordinator) (sagaId : String) (step : SagaStep Args) :
    Program (coordinatorFace Args) StepFault Unit :=
  if self.journals then do
    let _ ← flagged false false (onStore (.prepareEffect sagaId step.stepId step.stepName
      step.action step.compensation step.idempotencyKey))
    let _ ← flagged true false (onStore (.transitionEffect sagaId step.stepId [.prepared]
      .executing none none))
    pure ()
  else pure ()

def markApplied [Inhabited Args] (self : Coordinator) (sagaId : String) (step : SagaStep Args)
    (result : ExecuteResult Args) : Program (coordinatorFace Args) StepFault Unit :=
  if self.journals then do
    let _ ← flagged true true (onStore (.transitionEffect sagaId step.stepId [.executing]
      .applied (some result.resultData) none))
    pure ()
  else pure ()

def abortStep {Value : Type} (self : Coordinator) (sagaId : String) (step : SagaStep Args)
    (result : ExecuteResult Args) : Program (coordinatorFace Args) StepFault Value := do
  if self.journals then
    let _ ← flagged true true (onStore (.transitionEffect sagaId step.stepId [.executing]
      .aborted none (some result.detail)))
    .raise {
      error := .coordinator ("Sandbox rejected action: " ++ result.detail)
      journaled := true
      executionAmbiguous := false }
  else
    .raise {
      error := .coordinator ("Sandbox rejected action: " ++ result.detail)
      journaled := false
      executionAmbiguous := false }

def publishUnjournaled (self : Coordinator) (sagaId : String) (step : SagaStep Args) :
    Action Args Unit := do
  if self.hasStore then
    onStore (.appendCompensation sagaId step.compensation)
    if truthy step.idempotencyKey then
      onStore (.markStepCommitted sagaId (step.idempotencyKey.getD ""))
    else pure ()
  else pure ()

def publishStep (self : Coordinator) (sagaId : String) (step : SagaStep Args) :
    Program (coordinatorFace Args) StepFault Unit :=
  if self.journals then do
    let _ ← flagged true false (onStore (.commitEffect sagaId step.stepId step.idempotencyKey))
    pure ()
  else flagged false false (self.publishUnjournaled sagaId step)

def recordHistory [Inhabited Args] (self : Coordinator) (sagaId : String) (step : SagaStep Args)
    (result : ExecuteResult Args) : Action Args Unit :=
  if self.hasStore then
    onStore (.recordStep sagaId
      { stepName := step.stepName
        toolName := step.action.toolName
        arguments := step.action.arguments
        result := result.historyData
        status := step.status })
  else pure ()

/-- A successful result: the step joins `completed_steps` before its record is
committed. -/
def commitStep [Inhabited Args] (self : Coordinator) (sagaId : String) (step : SagaStep Args)
    (result : ExecuteResult Args) :
    Program (coordinatorFace Args) StepFault (SagaStep Args) := do
  self.markApplied sagaId step result
  let committed := { step with status := .committed }
  flagged self.journals false (onMemory (.appendCompleted sagaId committed))
  self.publishStep sagaId committed
  flagged self.journals false (self.recordHistory sagaId committed result)
  pure committed

def executeStep [Inhabited Args] (self : Coordinator) (sagaId : String) (step : SagaStep Args) :
    Program (coordinatorFace Args) StepFault (SagaStep Args) := do
  self.markExecuting sagaId step
  let result ← flagged self.journals self.journals (onOutside (.execute sagaId step))
  if result.succeeded then self.commitStep sagaId step result
  else self.abortStep sagaId step result

def preflight (self : Coordinator) (step : SagaStep Args) : Action Args Unit :=
  if self.validates then onOutside (.validate step.action) else pure ()

/-- The `try` block of one step: `none` is `return False`, `some` goes on. -/
def attemptStep [DecidableEq Args] [Inhabited Args] (self : Coordinator) (sagaId : String)
    (before : List (SagaStep Args)) (step : SagaStep Args) (after : List (SagaStep Args)) :
    Program (coordinatorFace Args) StepFault (Option (SagaStep Args)) := do
  let (accepted, _) ← flagged false false
    (onOutside (.verify step.action.arguments step.invariants))
  if accepted then
    flagged false false (self.preflight step)
    if step.requiresApproval ∧ ¬step.approved then
      let waiting := { step with status := .awaitingApproval }
      flagged false false
        (self.awaitApproval sagaId (before ++ waiting :: after) waiting)
      pure none
    else
      let committed ← self.executeStep sagaId step
      pure (some committed)
  else
    flagged false false (self.executeCompensations sagaId (completedSteps sagaId))
    pure none

def quarantineStep (sagaId : String) (step : SagaStep Args) : Action Args Unit := do
  let ambiguity := "forward effect raised before its outcome was durably recorded"
  let stepName ← Program.attempt (do
    let effect ← onStore (.transitionEffect sagaId step.stepId [.executing] .ambiguous none
      (some ambiguity))
    pure effect.stepName)
    fun _ => pure step.stepName
  deadLetterRecovery sagaId stepName ambiguity

/-- The `except` block of one step. -/
def failStep (self : Coordinator) (sagaId : String) (step : SagaStep Args)
    (fault : StepFault) : Action Args Unit := do
  self.executeCompensations sagaId (completedSteps sagaId)
  if fault.executionAmbiguous ∧ fault.journaled then quarantineStep sagaId step else pure ()

/-- `step_already_committed`, asked for a step with a non-empty key. -/
def alreadyCommitted (self : Coordinator) (sagaId : String) (step : SagaStep Args) :
    Action Args Bool :=
  if truthy step.idempotencyKey ∧ self.hasStore then
    onStore (.stepAlreadyCommitted sagaId (step.idempotencyKey.getD ""))
  else pure false

/-- The step loop of `execute_saga` and what follows it. `before` holds the
steps the loop is done with. -/
def executeSteps [DecidableEq Args] [Inhabited Args] (self : Coordinator) (sagaId : String) :
    List (SagaStep Args) → List (SagaStep Args) → Action Args Bool
  | _, [] => do
      onMemory (.setStatus sagaId .committed)
      self.writeStatus sagaId .committed {}
      onMemory (.evictIfNeeded self.maxActiveSagas)
      pure true
  | before, step :: after => do
      let skip ← self.alreadyCommitted sagaId step
      if skip then
        self.executeSteps sagaId (before ++ [{ step with status := .committed }]) after
      else
        let step := { step with status := .running }
        let outcome ← (self.attemptStep sagaId before step after).attempt fun fault => do
          self.failStep sagaId step fault
          pure none
        match outcome with
        | some committed => self.executeSteps sagaId (before ++ [committed]) after
        | none => pure false

def sagaNotFound (sagaId : String) : PyError :=
  .coordinator ("Saga '" ++ sagaId ++ "' not found.")

def executeSaga [DecidableEq Args] [Inhabited Args] (self : Coordinator) (sagaId : String)
    (steps : List (SagaStep Args)) : Action Args Bool := do
  let saga ← onMemory (.lookupSaga sagaId)
  if saga.isSome then self.executeSteps sagaId [] steps
  else .raise (.coordinator ("Saga '" ++ sagaId ++
    "' not found. Call start_transaction_log first."))

/-- `pending[0].approved = True`. -/
def approveFirst : List (SagaStep Args) → List (SagaStep Args)
  | [] => []
  | step :: rest => { step with approved := true } :: rest

def notAwaiting (sagaId : String) : PyError :=
  .coordinator ("Saga '" ++ sagaId ++ "' is not awaiting approval.")

def resumeAfterApproval [DecidableEq Args] [Inhabited Args] (self : Coordinator)
    (sagaId : String) : Action Args Bool := do
  match ← onMemory (.lookupSaga sagaId) with
  | none => .raise (sagaNotFound sagaId)
  | some saga =>
      if saga.status ≠ .awaitingApproval ∨ saga.pendingSteps = [] then
        .raise (notAwaiting sagaId)
      else
        onMemory (.setPending sagaId [])
        onMemory (.setStatus sagaId .running)
        self.writeStatus sagaId .running { pendingSteps := some [] }
        self.executeSaga sagaId (approveFirst saga.pendingSteps)

def rejectPending (self : Coordinator) (sagaId : String) : Action Args Bool := do
  match ← onMemory (.lookupSaga sagaId) with
  | none => .raise (sagaNotFound sagaId)
  | some saga =>
      if saga.status ≠ .awaitingApproval then .raise (notAwaiting sagaId)
      else
        onMemory (.setPending sagaId [])
        self.writeStatus sagaId .compensating { pendingSteps := some [] }
        self.executeCompensations sagaId (completedSteps sagaId)
        pure true

section Journaled

variable {self : Coordinator}

theorem has_store_of_journaled (journaled : self.store = .journaled) : self.hasStore = true := by
  simp [hasStore, journaled]

theorem journals_of_journaled (journaled : self.store = .journaled) : self.journals = true := by
  simp [journals, journaled]

theorem journaled_of_journals (journals : self.journals = true) : self.store = .journaled :=
  of_decide_eq_true journals

theorem write_status_journaled (journaled : self.store = .journaled) (sagaId : String)
    (status : SagaStatus) (metadata : Metadata Args) :
    self.writeStatus sagaId status metadata =
      onStore (.writeTransactionState sagaId status metadata) :=
  if_pos (has_store_of_journaled journaled)

theorem record_history_journaled [Inhabited Args] (journaled : self.store = .journaled)
    (sagaId : String) (step : SagaStep Args) (result : ExecuteResult Args) :
    self.recordHistory sagaId step result =
      onStore (.recordStep sagaId
        { stepName := step.stepName
          toolName := step.action.toolName
          arguments := step.action.arguments
          result := result.historyData
          status := step.status }) :=
  if_pos (has_store_of_journaled journaled)

end Journaled

end Coordinator

end SagaMind
