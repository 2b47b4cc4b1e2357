import SagaMind.Coordinator.Sequential
import SagaMind.Foundation.Extension
import SagaMind.Gateway.Access

/-!
# The saga endpoints of both gateways

Every endpoint that works on sagas, as a program over the calls of the
coordinator and over what the gateways read for themselves. The outcome of
`_validate_tool_args` and `_derive_file_contract` is part of a request, and so
are the identities that `uuid.uuid4()` gives it and the answer of the rate
limiter. Texts of step errors, the time a saga was started and the events that
`StreamSteps` collects from callbacks are left out.
-/

namespace SagaMind.Gateway

open CallProgram KeyedTable Coordinator

set_option autoImplicit false

variable {Args World : Type}

inductive Query where
  /-- `saga_store.get_history(saga_id)`. -/
  | history (sagaId : String)
  /-- `saga_store.list_dead_letters(bound_tenant)`. -/
  | deadLetters (boundTenant : Option String)
  /-- `saga.status`, of the object that the endpoint holds. -/
  | status (sagaId : String)

abbrev Query.Answer (Args : Type) : Query → Type
  | .history _ => List (HistoryEntry Args)
  | .deadLetters _ => List DeadLetter
  | .status _ => Option SagaStatus

def listDeadLetters (store : Store Args) (tenantId : Option String) : List DeadLetter :=
  store.dead.reverse.filter fun entry => tenantId = none || entry.tenantId = tenantId

def Query.serve : (query : Query) → System Args World → query.Answer Args
  | .history sagaId, system => system.store.history sagaId
  | .deadLetters boundTenant, system => listDeadLetters system.store boundTenant
  | .status sagaId, system => (system.memory.held? sagaId).map (·.status)

abbrev gatewayFace (Args : Type) : Interface :=
  (coordinatorFace Args).extend Query (Query.Answer Args)

/-- What an endpoint raises: an `HTTPException`, a status of the RPC context, or
an exception that nothing catches. -/
inductive Raised where
  | http (code : Nat) (detail : String)
  | rpc (code : Nat) (detail : String)
  | python (error : PyError)

abbrev Endpoint (Args Value : Type) : Type := Program (gatewayFace Args) Raised Value

/-- `get_saga_status`. -/
structure SagaState where
  sagaId : String
  tenantId : String
  goal : String
  status : SagaStatus
  completedSteps : List String
  deriving DecidableEq

/-- What an endpoint answers. -/
inductive Response (Args : Type) where
  | started (sagaId : String)
  | step (status : SagaStatus) (stepId : String)
  | saga (status : SagaStatus)
  | state (shown : SagaState)
  | events (shown : List SagaState)
  | history (sagaId : String) (entries : List (HistoryEntry Args))
  | letters (entries : List DeadLetter)
  | noValidDraft
  | speculated (sagaId : String)
  | streamed

section Pieces

def ask (query : Query) : Endpoint Args (query.Answer Args) :=
  (Program.further query).attempt fun error => .raise (.python error)

def coordinate {Value : Type} (action : Action Args Value) (handled : PyError → Raised) :
    Endpoint Args Value :=
  (action.lift Query (Query.Answer Args)).attempt fun error => .raise (handled error)

/-- `except CoordinatorError as exc: raise HTTPException(code, str(exc))`. -/
def refusing (code : Nat) : PyError → Raised
  | .coordinator message => .http code message
  | error => .python error

def lookup (sagaId : String) : Endpoint Args (Option (SagaTransaction Args)) :=
  coordinate (onMemory (.lookupSaga sagaId)) .python

def demand (checked : Except Reply Unit) : Endpoint Args Unit :=
  match checked with
  | .ok _ => pure ()
  | .error (.failure code detail) => .raise (.http code detail)
  | .error (.status _) => pure ()

def getSagaOr404 (sagaId : String) : Endpoint Args (SagaTransaction Args) := do
  match ← lookup sagaId with
  | none => .raise (.http 404 "Saga not found.")
  | some saga => pure saga

def shownState (saga : SagaTransaction Args) : SagaState where
  sagaId := saga.sagaId
  tenantId := saga.tenantId
  goal := saga.goal
  status := saga.status
  completedSteps := saga.completedSteps.map (·.stepName)

def streamEnds : SagaStatus → Bool
  | .committed | .rolledBack | .failed | .compensationFailed => true
  | _ => false

/-- `event_source`, for a client that reads so many times. -/
def eventSource (sagaId : String) : Nat → Option SagaStatus → Endpoint Args (List SagaState)
  | 0, _ => pure []
  | polls + 1, lastStatus => do
      match ← lookup sagaId with
      | none => pure []
      | some saga =>
          let sent := if some saga.status ≠ lastStatus then [shownState saga] else []
          if streamEnds saga.status then pure sent
          else do
            let later ← eventSource sagaId polls (some saga.status)
            pure (sent ++ later)

end Pieces

abbrev Proposed (Args : Type) : Type := Except (Nat × String) (SagaStep Args)

def accepted (proposed : Proposed Args) : Endpoint Args (SagaStep Args) :=
  match proposed with
  | .ok step => pure step
  | .error (code, detail) => .raise (.http code detail)

section Rest

variable [DecidableEq Args] [Inhabited Args] (self : Coordinator) (boundTenant : Option String)

def startSaga (sagaId goal tenantId : String) : Endpoint Args (Response Args) := do
  demand (enforceTenantAccess boundTenant tenantId)
  coordinate (self.startTransactionLog sagaId goal tenantId) .python
  pure (.started sagaId)

def submitStep (sagaId : String) (proposed : Proposed Args) : Endpoint Args (Response Args) := do
  let saga ← getSagaOr404 sagaId
  demand (enforceTenantAccess boundTenant saga.tenantId)
  let step ← accepted proposed
  let success ← coordinate (self.executeSaga sagaId [step]) (refusing 404)
  let status ← ask (.status sagaId)
  if status = some .awaitingApproval then pure (.step .awaitingApproval step.stepId)
  else if success = true then pure (.step .committed step.stepId)
  else .raise (.http 400 "Transaction step validation failed. Saga rolled back.")

def sagaStatus (sagaId : String) : Endpoint Args (Response Args) := do
  let saga ← getSagaOr404 sagaId
  demand (enforceTenantAccess boundTenant saga.tenantId)
  pure (.state (shownState saga))

def approveSagaStep (sagaId : String) : Endpoint Args (Response Args) := do
  let saga ← getSagaOr404 sagaId
  demand (enforceTenantAccess boundTenant saga.tenantId)
  let success ← coordinate (self.resumeAfterApproval sagaId) (refusing 409)
  if success = true then pure (.saga .committed)
  else do
    let status ← ask (.status sagaId)
    pure (.saga (status.getD saga.status))

def rejectSagaStep (sagaId : String) : Endpoint Args (Response Args) := do
  let saga ← getSagaOr404 sagaId
  demand (enforceTenantAccess boundTenant saga.tenantId)
  let _ ← coordinate (self.rejectPending sagaId) (refusing 409)
  pure (.saga .rolledBack)

def sagaHistory (sagaId : String) : Endpoint Args (Response Args) := do
  let saga ← getSagaOr404 sagaId
  demand (enforceTenantAccess boundTenant saga.tenantId)
  let entries ← ask (.history sagaId)
  pure (.history sagaId entries)

def streamSaga (sagaId : String) (polls : Nat) : Endpoint Args (Response Args) := do
  let saga ← getSagaOr404 sagaId
  demand (enforceTenantAccess boundTenant saga.tenantId)
  let shown ← eventSource sagaId polls none
  pure (.events shown)

/-- `list_dead_letters`. -/
def deadLetters : Endpoint Args (Response Args) := do
  let entries ← ask (.deadLetters boundTenant)
  pure (.letters entries)

/-- `run_speculative`, with the step of the winner, if there is one. -/
def runSpeculative (sagaId goal tenantId : String) (winner : Option (Proposed Args)) :
    Endpoint Args (Response Args) := do
  demand (enforceTenantAccess boundTenant tenantId)
  match winner with
  | none => pure .noValidDraft
  | some proposed => do
      let step ← accepted proposed
      coordinate (self.startTransactionLog sagaId goal tenantId) .python
      let success ← coordinate (self.executeSaga sagaId [step]) .python
      if success = true then pure (.speculated sagaId)
      else .raise (.http 409 "Winning draft failed during journaled commit.")

end Rest

section Rpc

variable [DecidableEq Args] [Inhabited Args] (self : Coordinator) (settings : Settings)
  (key : Option String)

/-- The end of a call that `_authorize` refuses. -/
def unauthorized {Value : Type} : Endpoint Args Value :=
  .raise (.rpc 7 "Invalid API key or tenant binding.")

def authorizedSaga (sagaId : String) : Endpoint Args (SagaTransaction Args) := do
  match ← lookup sagaId with
  | none => .raise (.rpc 5 "Saga not found.")
  | some saga =>
      if authorizeKey settings key saga.tenantId then pure saga else unauthorized

/-- `StartSaga`. -/
def startSagaRpc (sagaId goal tenantId : String) : Endpoint Args (Response Args) :=
  if authorizeKey settings key tenantId then do
    coordinate (self.startTransactionLog sagaId goal tenantId) .python
    pure (.started sagaId)
  else unauthorized

/-- `SubmitStep`. -/
def submitStepRpc (sagaId : String) (step : SagaStep Args) : Endpoint Args (Response Args) := do
  let _ ← authorizedSaga settings key sagaId
  let ok ← coordinate (self.executeSaga sagaId [step]) .python
  pure (.step (if ok then .committed else .rolledBack) step.stepId)

/-- `GetSagaStatus`. -/
def getSagaStatusRpc (sagaId : String) : Endpoint Args (Response Args) := do
  let saga ← authorizedSaga settings key sagaId
  pure (.state (shownState saga))

def streamSteps (sagaId : String) (step : SagaStep Args) : Endpoint Args (Response Args) := do
  let _ ← authorizedSaga settings key sagaId
  let _ ← coordinate (self.executeSaga sagaId [step]) .python
  pure .streamed

end Rpc

/-- A request to one of the gateways. -/
inductive Request (Args : Type) where
  | startSaga (sagaId goal tenantId : String)
  | submitStep (sagaId : String) (proposed : Proposed Args)
  | sagaStatus (sagaId : String)
  | approveSagaStep (sagaId : String)
  | rejectSagaStep (sagaId : String)
  | sagaHistory (sagaId : String)
  | streamSaga (sagaId : String) (polls : Nat)
  | deadLetters
  | runSpeculative (sagaId goal tenantId : String) (winner : Option (Proposed Args))
  | startSagaRpc (sagaId goal tenantId : String)
  | submitStepRpc (sagaId : String) (step : SagaStep Args)
  | getSagaStatusRpc (sagaId : String)
  | streamSteps (sagaId : String) (step : SagaStep Args)

namespace Request

variable [DecidableEq Args] [Inhabited Args] (self : Coordinator) (settings : Settings)
  (key : Option String)

/-- The dependencies of a REST endpoint, in the order of `_PROTECTED`. -/
def protect (limited : Bool) (endpoint : Option String → Endpoint Args (Response Args)) :
    Endpoint Args (Response Args) := do
  demand (requireApiKey settings key)
  if limited = true then .raise (.http 429 "Rate limit exceeded. Try again shortly.")
  else endpoint (getBoundTenant settings key)

def program (limited : Bool) : Request Args → Endpoint Args (Response Args)
  | .startSaga sagaId goal tenantId =>
      protect settings key limited fun bound => Gateway.startSaga self bound sagaId goal tenantId
  | .submitStep sagaId proposed =>
      protect settings key limited fun bound => Gateway.submitStep self bound sagaId proposed
  | .sagaStatus sagaId => protect settings key limited fun bound => Gateway.sagaStatus bound sagaId
  | .approveSagaStep sagaId =>
      protect settings key limited fun bound => Gateway.approveSagaStep self bound sagaId
  | .rejectSagaStep sagaId =>
      protect settings key limited fun bound => Gateway.rejectSagaStep self bound sagaId
  | .sagaHistory sagaId => protect settings key limited fun bound => Gateway.sagaHistory bound sagaId
  | .streamSaga sagaId polls =>
      protect settings key limited fun bound => Gateway.streamSaga bound sagaId polls
  | .deadLetters => protect settings key limited fun bound => Gateway.deadLetters bound
  | .runSpeculative sagaId goal tenantId winner =>
      protect settings key limited fun bound =>
        Gateway.runSpeculative self bound sagaId goal tenantId winner
  | .startSagaRpc sagaId goal tenantId => Gateway.startSagaRpc self settings key sagaId goal tenantId
  | .submitStepRpc sagaId step => Gateway.submitStepRpc self settings key sagaId step
  | .getSagaStatusRpc sagaId => Gateway.getSagaStatusRpc settings key sagaId
  | .streamSteps sagaId step => Gateway.streamSteps self settings key sagaId step

def starts? : Request Args → Option (String × String)
  | .startSaga sagaId _ tenantId => some (sagaId, tenantId)
  | .runSpeculative sagaId _ tenantId _ => some (sagaId, tenantId)
  | .startSagaRpc sagaId _ tenantId => some (sagaId, tenantId)
  | _ => none

end Request

section Interfaces

variable [DecidableEq Args] [Inhabited Args] {self : Coordinator} {State : Type}
  {machine : Machine (gatewayFace Args) State} {post : Response Args → State → Prop}
  {failed : Raised → State → Prop} {state : State}

def Transported (answer : SagaStatus → Response Args) (refusal : Nat → String → Raised)
    (post : Response Args → State → Prop) (failed : Raised → State → Prop) : Reply → State → Prop
  | .status value => post (answer value)
  | .failure code detail => failed (refusal code detail)

omit [DecidableEq Args] [Inhabited Args] in
theorem wp_coordinate_inner {Value : Type} {action : Action Args Value}
    {handled : PyError → Raised} {post : Value → State → Prop} :
    wp machine (coordinate action handled) post failed state ↔
      wp machine.inner action post (fun error => failed (handled error)) state := by
  rw [coordinate, wp_attempt, wp_lift]
  rfl

omit [DecidableEq Args] [Inhabited Args] in
/-- What follows a lookup matters only for the sagas that it can find. -/
theorem wp_lookup_congr {sagaId : String} {visible : SagaTransaction Args → Prop}
    {first second : Option (SagaTransaction Args) → State → Prop} {raised : PyError → State → Prop}
    (found : ∀ before saga after,
      machine.step (.inl (.memory (.lookupSaga sagaId))) before (.ok (some saga)) after → visible saga)
    (missing : ∀ after, first none after ↔ second none after)
    (held : ∀ saga after, visible saga → (first (some saga) after ↔ second (some saga) after)) :
    wp machine.inner (onMemory (.lookupSaga sagaId)) first raised state ↔
      wp machine.inner (onMemory (.lookupSaga sagaId)) second raised state := by
  apply and_congr_right
  intro _
  refine forall_congr' fun reply => forall_congr' fun after => imp_congr_right fun taken => ?_
  rcases reply with fault | (_ | saga)
  · exact Iff.rfl
  · exact missing after
  · exact held saga after (found _ _ _ taken)

omit [DecidableEq Args] [Inhabited Args] in
/-- A caller who may see the saga gets from `reject_saga_step` what the
coordinator's interface replies. -/
theorem reject_saga_step_interface {boundTenant : Option String} {sagaId : String}
    (visible : ∀ before saga after,
      machine.step (.inl (.memory (.lookupSaga sagaId))) before (.ok (some saga)) after →
        enforceTenantAccess boundTenant saga.tenantId = .ok ()) :
    wp machine (rejectSagaStep self boundTenant sagaId) post failed state ↔
      wp machine.inner (self.rejectSagaStep sagaId) (Transported .saga .http post failed)
        (fun error => failed (.python error)) state := by
  rw [rejectSagaStep, getSagaOr404, lookup, Coordinator.rejectSagaStep, wp_bind, wp_bind, wp_bind,
    wp_coordinate_inner]
  apply wp_lookup_congr visible
  · exact fun _ => Iff.rfl
  · intro saga after admitted
    dsimp only
    rw [wp_pure, admitted, wp_attempt, wp_bind, wp_bind, demand, wp_pure, wp_bind, wp_coordinate_inner]
    apply iff_of_eq
    congr 1
    funext error after
    cases error <;> rfl

/-- An authorized caller gets from `SubmitStep` what the coordinator's interface
replies. -/
theorem submit_step_rpc_interface {settings : Settings} {key : Option String} {stepId : String}
    {request : StepProposal Args}
    (authorized : ∀ before saga after,
      machine.step (.inl (.memory (.lookupSaga request.sagaId))) before (.ok (some saga)) after →
        authorizeKey settings key saga.tenantId = true) :
    wp machine (submitStepRpc self settings key request.sagaId (proposalToStep stepId request)) post
        failed state ↔
      wp machine.inner (self.submitStep stepId request)
        (Transported (fun status => .step status stepId) .rpc post failed)
        (fun error => failed (.python error)) state := by
  rw [submitStepRpc, authorizedSaga, lookup, Coordinator.submitStep, wp_bind, wp_bind, wp_bind,
    wp_coordinate_inner]
  apply wp_lookup_congr authorized
  · exact fun _ => Iff.rfl
  · intro saga after admitted
    dsimp only
    rw [if_pos admitted, wp_pure, wp_bind, wp_bind, wp_coordinate_inner]
    rfl

end Interfaces

end SagaMind.Gateway
