import SagaMind.Coordinator.Forward

/-!
# The saga coordinator: crash recovery

`recover` and its helpers. Effects are walked newest first over the snapshot
that `list_incomplete` returned. A handler answers `true` when the walk goes on
and `false` when the saga was handed to an operator.
-/

namespace SagaMind

open CallProgram

set_option autoImplicit false

variable {Args : Type}

namespace Coordinator

def deserializeStep (value : StepRecord Args) : SagaStep Args where
  stepId := value.stepId
  stepName := value.stepName
  action := value.action
  compensation := value.compensation
  invariants := value.invariants
  status := value.status
  error := value.error
  idempotencyKey := value.idempotencyKey
  requiresApproval := value.requiresApproval
  approved := value.approved

@[simp] theorem deserialize_serialize_step (step : SagaStep Args) :
    deserializeStep (serializeStep step) = step := rfl

def stepFromEffect (effect : Effect Args) : SagaStep Args where
  stepId := effect.stepId
  stepName := effect.stepName
  action := effect.action
  compensation := effect.compensation
  invariants := ""
  status := .committed
  idempotencyKey := effect.idempotencyKey

def recordAmbiguity (sagaId : String) (effect : Effect Args) (error : String) :
    Action Args Unit :=
  if effect.state = .executing then do
    let _ ← onStore (.transitionEffect sagaId effect.stepId [.executing] .ambiguous none
      (some error))
    pure ()
  else pure ()

def markAmbiguous (sagaId : String) (effect : Effect Args) (error : String) :
    Action Args Unit := do
  recordAmbiguity sagaId effect error
  deadLetterRecovery sagaId effect.stepName error

def failRecoveryCompensation (sagaId : String) (effect : Effect Args) (error : String) :
    Action Args Unit := do
  let _ ← onStore (.transitionEffect sagaId effect.stepId [.compensating] .compensationFailed none
    (some error))
  deadLetterRecovery sagaId effect.stepName error

def keyPublished (effect : Effect Args) : Action Args Bool :=
  if truthy effect.idempotencyKey then
    onStore (.stepAlreadyCommitted effect.sagaId (effect.idempotencyKey.getD ""))
  else pure false

/-- `_resolve_forward_effect` after the published keys were asked. -/
def askResolver (self : Coordinator) (effect : Effect Args) : Action Args Resolution :=
  if self.resolvesEffects then do
    let value ← onOutside (.resolveEffect effect)
    pure (normaliseResolution value)
  else if truthy effect.idempotencyKey ∧ self.executesIdempotently then do
    let result ← onOutside (.executeIdempotent effect.action (effect.idempotencyKey.getD ""))
    pure (if result.succeeded then .applied else .unknown)
  else pure .unknown

def resolveForwardEffect (self : Coordinator) (effect : Effect Args) :
    Action Args Resolution := do
  let published ← keyPublished effect
  if published then pure .applied else self.askResolver effect

def resolveCompensation (self : Coordinator) (effect : Effect Args) : Action Args Resolution :=
  if self.resolvesCompensations then do
    let value ← onOutside (.resolveCompensation effect)
    pure (normaliseResolution value)
  else pure .unknown

/-- `_recover_compensation` once the record is marked `COMPENSATING`. -/
def runRecoveryCompensation (sagaId : String) (effect : Effect Args) : Action Args Bool :=
  Program.attempt (do
    let succeeded ← onOutside
      (.executeCompensation sagaId (some effect.stepId) effect.compensation)
    if succeeded then
      let _ ← onStore (.transitionEffect sagaId effect.stepId [.compensating] .compensated none
        none)
      pure true
    else
      failRecoveryCompensation sagaId effect "compensation returned False"
      pure false)
    fun error => do
      failRecoveryCompensation sagaId effect error.text
      pure false

def recoverCompensation (sagaId : String) (effect : Effect Args) (alreadyMarked : Bool) :
    Action Args Bool := do
  if alreadyMarked then runRecoveryCompensation sagaId effect
  else
    let effect ← onStore (.transitionEffect sagaId effect.stepId [.applied, .committed]
      .compensating none none)
    runRecoveryCompensation sagaId effect

/-- The second half of one iteration of `_recover_effects`. -/
def undoEffect (self : Coordinator) (sagaId : String) (effect : Effect Args) :
    Action Args Bool :=
  match effect.state with
  | .compensating => do
      match ← (self.resolveCompensation effect).caught with
      | .error error =>
          failRecoveryCompensation sagaId effect ("compensation resolver failed: " ++ error.text)
          pure false
      | .ok .applied =>
          let _ ← onStore (.transitionEffect sagaId effect.stepId [.compensating] .compensated
            none none)
          pure true
      | .ok .unknown =>
          failRecoveryCompensation sagaId effect "compensation outcome could not be determined"
          pure false
      | .ok .notApplied => recoverCompensation sagaId effect true
  | .applied => recoverCompensation sagaId effect false
  | .committed => recoverCompensation sagaId effect false
  | _ => pure true

def settleForward (self : Coordinator) (sagaId : String) (effect : Effect Args) :
    Action Args Bool := do
  match ← (self.resolveForwardEffect effect).caught with
  | .error error =>
      markAmbiguous sagaId effect ("effect resolver failed: " ++ error.text)
      pure false
  | .ok .notApplied =>
      let _ ← onStore (.transitionEffect sagaId effect.stepId [.executing, .ambiguous] .aborted
        none none)
      pure true
  | .ok .applied =>
      let effect ← onStore (.transitionEffect sagaId effect.stepId [.executing, .ambiguous]
        .applied none none)
      self.undoEffect sagaId effect
  | .ok .unknown =>
      markAmbiguous sagaId effect "forward effect outcome could not be determined"
      pure false

/-- One iteration of `_recover_effects`. -/
def recoverEffect (self : Coordinator) (sagaId : String) (effect : Effect Args) :
    Action Args Bool :=
  match effect.state with
  | .aborted => pure true
  | .compensated => pure true
  | .compensationFailed => do
      deadLetterRecovery sagaId effect.stepName
        (if truthy effect.error then effect.error.getD "" else "prior compensation failure")
      pure false
  | .prepared => do
      let _ ← onStore (.transitionEffect sagaId effect.stepId [.prepared] .aborted none none)
      pure true
  | .executing => self.settleForward sagaId effect
  | .ambiguous => self.settleForward sagaId effect
  | _ => self.undoEffect sagaId effect

/-- `_recover_effects` over the reversed list. -/
def recoverEffects (self : Coordinator) (sagaId : String) :
    List (Effect Args) → Action Args Bool
  | [] => pure true
  | effect :: earlier => do
      let goOn ← self.recoverEffect sagaId effect
      if goOn then self.recoverEffects sagaId earlier else pure false

/-- The loop over the compensation log of a saga without a journal, over the
reversed list; it answers with the error that stopped it. -/
def replayCompensations (sagaId : String) : List (ActionPayload Args) →
    Action Args (Option String)
  | [] => pure none
  | compensation :: earlier => do
      match ← (onOutside (.executeCompensation sagaId none compensation)).caught with
      | .ok true => replayCompensations sagaId earlier
      | .ok false => pure (some ("Compensation '" ++ compensation.toolName ++ "' returned False"))
      | .error error => pure (some error.text)

def awaitsApproval (status : SagaStatus) (metadata : Metadata Args) : Bool :=
  status = .awaitingApproval ∧ metadata.pendingSteps.getD [] ≠ []

/-- One iteration of `recover`; `true` when the saga was rolled back. -/
def recoverSaga (self : Coordinator) (saga : IncompleteSaga Args) : Action Args Bool := do
  if awaitsApproval saga.status saga.metadata then
    onMemory (.registerSaga {
      sagaId := saga.sagaId
      tenantId := saga.metadata.tenantId.getD ""
      goal := saga.metadata.goal.getD ""
      status := .awaitingApproval
      completedSteps := (saga.effects.filter (·.state = .committed)).map stepFromEffect
      pendingSteps := (saga.metadata.pendingSteps.getD []).map deserializeStep })
    pure false
  else if saga.effects ≠ [] then
    let settled ← self.recoverEffects saga.sagaId saga.effects.reverse
    if settled then
      onStore (.writeTransactionState saga.sagaId .rolledBack { recovered := some true })
      pure true
    else pure false
  else
    match ← replayCompensations saga.sagaId saga.compensations.reverse with
    | some error =>
        onStore (.writeTransactionState saga.sagaId .compensationFailed
          { recovered := some false, error := some error })
        onStore (.pushDeadLetter saga.sagaId "crash_recovery" error)
        pure false
    | none =>
        onStore (.writeTransactionState saga.sagaId .rolledBack { recovered := some true })
        pure true

/-- The loop of `recover` with its count of rolled-back sagas. -/
def recoverSagas (self : Coordinator) : List (IncompleteSaga Args) → Nat → Action Args Nat
  | [], recovered => pure recovered
  | saga :: rest, recovered => do
      let rolledBack ← self.recoverSaga saga
      self.recoverSagas rest (if rolledBack then recovered + 1 else recovered)

def recover (self : Coordinator) : Action Args Nat := do
  if self.hasStore then
    let incomplete ← onStore .listIncomplete
    self.recoverSagas incomplete 0
  else pure 0

end Coordinator

end SagaMind
