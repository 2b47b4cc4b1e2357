import SagaMind.Coordinator.Api
import SagaMind.Foundation.Pool

/-!
# The discipline of one call

What a running call may do next follows from what it did before: it marks a
record `EXECUTING` only after preparing it, runs the sandbox only after that
mark, commits only what ran, and compensates only a record that it moved to
`COMPENSATING` or found there. Every program of a journaled coordinator keeps
to this, whatever its calls are answered.
-/

namespace SagaMind

open CallProgram Coordinator

set_option autoImplicit false

variable {Args : Type}

structure Ticket (Args : Type) where
  sagaId : String
  stepId : String
  action : ActionPayload Args
  compensation : ActionPayload Args
  idempotencyKey : Option String

def SagaStep.ticket (step : SagaStep Args) (sagaId : String) : Ticket Args :=
  ⟨sagaId, step.stepId, step.action, step.compensation, step.idempotencyKey⟩

/-- How far a call is with the forward execution of a step. -/
inductive Stage (Args : Type) where
  | idle
  /-- The key was asked for and not published. -/
  | cleared (sagaId key : String)
  | prepared (ticket : Ticket Args)
  | armed (ticket : Ticket Args)
  | ran (ticket : Ticket Args)

def Stage.note : (request : Call Args) → Except PyError request.Answer → Stage Args → Stage Args
  | .store (.stepAlreadyCommitted sagaId key), .ok false, _ => .cleared sagaId key
  | .store (.prepareEffect sagaId stepId _ action compensation key), .ok _, _ =>
      .prepared ⟨sagaId, stepId, action, compensation, key⟩
  | .store (.prepareEffect ..), .error _, _ => .idle
  | .store (.transitionEffect _ _ _ .executing _ _), .ok _, .prepared ticket => .armed ticket
  | .store (.transitionEffect _ _ _ .executing _ _), .error _, .prepared _ => .idle
  | .store (.commitEffect ..), .ok _, _ => .idle
  | .store (.writeTransactionState ..), _, .ran ticket => .ran ticket
  | .store (.writeTransactionState ..), _, _ => .idle
  | .outside (.execute ..), .ok result, .armed ticket =>
      if result.succeeded then .ran ticket else .idle
  | .outside (.execute ..), .error _, .armed _ => .idle
  | _, _, stage => stage

def clearance (sagaId : String) (key : Option String) : Stage Args :=
  if truthy key then .cleared sagaId (key.getD "") else .idle

/-- What a call has done so far, as far as it decides what it may do. -/
structure Progress (Args : Type) where
  stage : Stage Args := .idle
  /-- The record this call moved to `COMPENSATING` and has not compensated. -/
  claim : Option (String × String) := none
  /-- The record this call found in `COMPENSATING` before compensating it. -/
  found : Option (String × String) := none
  /-- `COMPENSATION_FAILED` was just written: the next read is the handler's. -/
  handling : Bool := false
  /-- This call is `recover`. -/
  recovering : Bool := false

namespace Progress

def noteClaim : (request : Call Args) → Except PyError request.Answer →
    Option (String × String) → Option (String × String)
  | .store (.transitionEffect sagaId stepId _ .compensating _ _), .ok _, _ =>
      some (sagaId, stepId)
  | .outside (.executeCompensation ..), _, _ => none
  | _, _, claim => claim

def noteFound (handling : Bool) : (request : Call Args) → Except PyError request.Answer →
    Option (String × String) → Option (String × String)
  | .store (.getEffect sagaId stepId), .ok effect, _ =>
      if effect.state = .compensating ∧ handling = false then some (sagaId, stepId) else none
  | .outside (.executeCompensation ..), _, _ => none
  | _, _, found => found

def noteHandling : Call Args → Bool → Bool
  | .store (.writeTransactionState _ status _), _ => status = .compensationFailed
  | .store _, _ => false
  | .outside _, _ => false
  | .memory _, handling => handling

def noteRecovering : Call Args → Bool → Bool
  | .store .listIncomplete, _ => true
  | _, recovering => recovering

def note (request : Call Args) (reply : Except PyError request.Answer)
    (before : Progress Args) : Progress Args where
  stage := before.stage.note request reply
  claim := noteClaim request reply before.claim
  found := noteFound before.handling request reply before.found
  handling := noteHandling request before.handling
  recovering := noteRecovering request before.recovering

def allowed : Call Args → Progress Args → Prop
  | .store (.stepAlreadyCommitted ..), progress =>
      progress.stage = .idle ∨ progress.recovering = true
  | .store (.prepareEffect sagaId _ _ _ _ key), progress => progress.stage = clearance sagaId key
  | .store (.transitionEffect sagaId stepId expected newState _ _), progress =>
      (∀ state ∈ expected, edge state newState = true) ∧ (newState = .executing →
        ∃ ticket, progress.stage = .prepared ticket ∧ ticket.sagaId = sagaId ∧
          ticket.stepId = stepId)
  | .store (.commitEffect sagaId stepId key), progress =>
      ∃ ticket, progress.stage = .ran ticket ∧ ticket.sagaId = sagaId ∧
        ticket.stepId = stepId ∧ ticket.idempotencyKey = key
  | .store (.markStepCommitted ..), _ => False
  | .outside (.execute sagaId step), progress => progress.stage = .armed (step.ticket sagaId)
  | .outside (.executeCompensation sagaId stepId _), progress =>
      progress.recovering = true ∨ ∃ id, stepId = some id ∧
        (progress.claim = some (sagaId, id) ∨ progress.found = some (sagaId, id))
  | _, _ => True

end Progress

def disciplined : Machine (coordinatorFace Args) (Progress Args) where
  allowed := Progress.allowed
  step := fun request before reply after => after = Progress.note request reply before

section Rules

variable {progress : Progress Args}

theorem disciplined_memory {request : MemoryCall Args} {post : request.Answer → Progress Args → Prop}
    {failed : PyError → Progress Args → Prop}
    (answered : ∀ answer, post answer (progress.note (.memory request) (.ok answer)))
    (raised : ∀ error, failed error (progress.note (.memory request) (.error error))) :
    wp disciplined (onMemory request) post failed progress :=
  wp_noting trivial answered raised

theorem disciplined_store {request : StoreCall Args} {post : request.Answer → Progress Args → Prop}
    {failed : PyError → Progress Args → Prop}
    (here : Progress.allowed (.store request) progress)
    (answered : ∀ answer, post answer (progress.note (.store request) (.ok answer)))
    (raised : ∀ error, failed error (progress.note (.store request) (.error error))) :
    wp disciplined (onStore request) post failed progress :=
  wp_noting here answered raised

theorem disciplined_outside {request : OutsideCall Args}
    {post : request.Answer → Progress Args → Prop} {failed : PyError → Progress Args → Prop}
    (here : Progress.allowed (.outside request) progress)
    (answered : ∀ answer, post answer (progress.note (.outside request) (.ok answer)))
    (raised : ∀ error, failed error (progress.note (.outside request) (.error error))) :
    wp disciplined (onOutside request) post failed progress :=
  wp_noting here answered raised

theorem conforms_memory (request : MemoryCall Args) : Conforms disciplined (onMemory request) :=
  fun _ => disciplined_memory (fun _ => trivial) fun _ => trivial

theorem conforms_store {request : StoreCall Args}
    (here : ∀ progress, Progress.allowed (.store request) progress) :
    Conforms disciplined (onStore request) :=
  fun progress => disciplined_store (here progress) (fun _ => trivial) fun _ => trivial

theorem conforms_transition {sagaId stepId : String} {expected : List EffectState}
    {newState : EffectState} {result : Option Args} {error : Option String}
    (edges : ∀ state ∈ expected, edge state newState = true) (other : newState ≠ .executing) :
    Conforms disciplined
      (onStore (.transitionEffect sagaId stepId expected newState result error)) :=
  conforms_store fun _ => ⟨edges, fun same => absurd same other⟩

end Rules

namespace Coordinator

variable {self : Coordinator} {sagaId : String} {step : SagaStep Args} {progress : Progress Args}

section Rollback

theorem conforms_write_status (status : SagaStatus) (metadata : Metadata Args) :
    Conforms disciplined (self.writeStatus sagaId status metadata) :=
  conforms_ite (conforms_store fun _ => trivial) (conforms_pure _)

theorem conforms_dead_letter_recovery (stepName error : String) :
    Conforms disciplined (deadLetterRecovery sagaId stepName error : Action Args Unit) :=
  conforms_bind (conforms_store fun _ => trivial) fun _ => conforms_store fun _ => trivial

theorem conforms_record_compensation_failure (stepId error : String) :
    Conforms disciplined (self.recordCompensationFailure sagaId stepId error : Action Args Unit) := by
  apply conforms_ite
  · apply conforms_attempt
    · apply conforms_bind
      · exact conforms_store fun _ => trivial
      · intro effect
        apply conforms_ite
        · exact conforms_bind (conforms_transition (by decide) (by decide)) fun _ => conforms_pure _
        · exact conforms_pure _
    · exact fun _ => conforms_pure _
  · exact conforms_pure _

theorem conforms_handle_compensation_failure (error : String) :
    Conforms disciplined (self.handleCompensationFailure sagaId step error) := by
  apply conforms_bind (conforms_memory _)
  intro _
  apply conforms_ite
  · apply conforms_bind
    · exact conforms_store fun _ => trivial
    · intro _
      exact conforms_bind (conforms_record_compensation_failure _ _) fun _ =>
        conforms_store fun _ => trivial
  · exact conforms_pure _

def MayCompensate (sagaId stepId : String) (progress : Progress Args) : Prop :=
  progress.claim = some (sagaId, stepId) ∨ progress.found = some (sagaId, stepId)

theorem disciplined_mark_compensating (journaled : self.store = .journaled) {stepId : String}
    {post : Unit → Progress Args → Prop} {failed : PyError → Progress Args → Prop}
    (calm : progress.handling = false)
    (marked : ∀ after, MayCompensate sagaId stepId after → post () after)
    (refused : ∀ error after, failed error after) :
    wp disciplined (self.markCompensating sagaId stepId) post failed progress := by
  unfold markCompensating
  rw [if_pos (journals_of_journaled journaled), wp_bind]
  apply disciplined_store
  · trivial
  · intro effect
    rw [wp_ite]
    split
    · rw [wp_bind]
      apply disciplined_store
      · exact ⟨by decide, nofun⟩
      · exact fun _ => marked _ (.inl rfl)
      · exact fun error => refused _ _
    · rw [wp_ite]
      split
      · rename_i compensating
        apply marked
        right
        exact if_pos ⟨compensating, calm⟩
      · exact refused _ _
  · exact fun error => refused _ _

theorem disciplined_compensate_step (journaled : self.store = .journaled)
    {post : Bool → Progress Args → Prop} {failed : PyError → Progress Args → Prop}
    (calm : progress.handling = false)
    (compensated : ∀ after, after.handling = false → post true after)
    (stopped : ∀ after, post false after) (raised : ∀ error after, failed error after) :
    wp disciplined (self.compensateStep sagaId step) post failed progress := by
  unfold compensateStep
  rw [wp_bind]
  apply disciplined_mark_compensating journaled calm
  · intro marked claims
    rw [wp_bind]
    apply disciplined_outside
    · exact .inr ⟨step.stepId, rfl, claims⟩
    · intro succeeded
      rw [wp_ite]
      split
      · unfold markCompensated
        rw [wp_bind, if_pos (journals_of_journaled journaled), wp_bind]
        apply disciplined_store
        · exact ⟨by decide, nofun⟩
        · exact fun _ => compensated _ rfl
        · exact fun error => raised _ _
      · rw [wp_bind]
        apply wp_mono (conforms_handle_compensation_failure _ _)
        · exact fun _ after _ => stopped after
        · exact fun error after _ => raised error after
    · exact fun error => raised _ _
  · exact fun error after => raised error after

theorem disciplined_rollback (journaled : self.store = .journaled) (steps : List (SagaStep Args))
    (calm : progress.handling = false) :
    wp disciplined (self.rollback sagaId steps) (fun _ _ => True) (fun _ _ => True) progress := by
  apply rollback_rule fun _ progress => progress.handling = false
  case closes =>
    exact fun _ => conforms_bind (conforms_memory _) (fun _ => conforms_write_status _ _) _
  case undoes =>
    intro step rest progress calm
    unfold undoStep
    rw [wp_attempt]
    apply disciplined_compensate_step journaled calm
    · exact fun after calm => calm
    · exact fun after => trivial
    · intro error after
      rw [wp_bind]
      apply wp_mono (conforms_handle_compensation_failure _ after)
      · exact fun _ _ _ => trivial
      · exact fun _ _ _ => trivial
  case here => exact calm

theorem conforms_execute_compensations (journaled : self.store = .journaled) :
    Conforms disciplined
      (self.executeCompensations sagaId (completedSteps sagaId) : Action Args Unit) := by
  intro progress
  apply execute_compensations_rule fun progress => progress.handling = false
  · rw [write_status_journaled journaled]
    exact disciplined_store trivial (fun _ => rfl) fun _ => trivial
  · intro between calm
    exact disciplined_memory (fun steps => disciplined_rollback journaled _ calm) fun _ => trivial

end Rollback

section Forward

variable [Inhabited Args]

def Cleared (sagaId : String) (step : SagaStep Args) (progress : Progress Args) : Prop :=
  progress.stage = clearance sagaId step.idempotencyKey

omit [Inhabited Args] in
theorem disciplined_mark_executing (journaled : self.store = .journaled)
    {post : Unit → Progress Args → Prop} {failed : StepFault → Progress Args → Prop}
    (cleared : Cleared sagaId step progress)
    (armed : ∀ after, after.stage = .armed (step.ticket sagaId) → post () after)
    (raised : ∀ fault after, failed fault after) :
    wp disciplined (self.markExecuting sagaId step) post failed progress := by
  unfold markExecuting
  rw [if_pos (journals_of_journaled journaled), wp_bind, wp_flagged]
  apply disciplined_store
  · exact cleared
  · intro effect
    rw [wp_bind, wp_flagged]
    apply disciplined_store
    · exact ⟨by decide, fun _ => ⟨_, rfl, rfl, rfl⟩⟩
    · exact fun _ => armed _ rfl
    · exact fun error => raised _ _
  · exact fun error => raised _ _

theorem disciplined_commit_step (journaled : self.store = .journaled)
    {result : ExecuteResult Args} {post : SagaStep Args → Progress Args → Prop}
    {failed : StepFault → Progress Args → Prop}
    (ran : progress.stage = .ran (step.ticket sagaId))
    (committed : ∀ step after, after.stage = .idle → post step after)
    (raised : ∀ fault after, failed fault after) :
    wp disciplined (self.commitStep sagaId step result) post failed progress := by
  unfold commitStep markApplied
  rw [wp_bind, if_pos (journals_of_journaled journaled), wp_bind, wp_flagged]
  apply disciplined_store
  · exact ⟨by decide, nofun⟩
  · intro effect
    rw [wp_pure, wp_bind, wp_flagged]
    apply disciplined_memory
    · intro _
      unfold publishStep
      rw [wp_bind, if_pos (journals_of_journaled journaled), wp_bind, wp_flagged]
      apply disciplined_store
      · exact ⟨_, ran, rfl, rfl, rfl⟩
      · intro effect
        rw [wp_pure, wp_bind, wp_flagged, record_history_journaled journaled]
        apply disciplined_store
        · trivial
        · exact fun _ => committed _ _ rfl
        · exact fun error => raised _ _
      · exact fun error => raised _ _
    · exact fun error => raised _ _
  · exact fun error => raised _ _

theorem disciplined_execute_step (journaled : self.store = .journaled)
    {post : SagaStep Args → Progress Args → Prop} {failed : StepFault → Progress Args → Prop}
    (cleared : Cleared sagaId step progress)
    (committed : ∀ step after, after.stage = .idle → post step after)
    (raised : ∀ fault after, failed fault after) :
    wp disciplined (self.executeStep sagaId step) post failed progress := by
  apply execute_step_rule fun marked => marked.stage = .armed (step.ticket sagaId)
  · exact disciplined_mark_executing journaled cleared (fun _ armed => armed) raised
  · intro marked armed
    apply disciplined_outside
    · exact armed
    · intro result
      split
      · rename_i succeeded
        apply disciplined_commit_step journaled _ committed raised
        simp [Progress.note, armed, Stage.note, succeeded]
      · unfold abortStep
        rw [if_pos (journals_of_journaled journaled), wp_bind, wp_flagged]
        apply disciplined_store
        · exact ⟨by decide, nofun⟩
        · exact fun _ => raised _ _
        · exact fun error => raised _ _
    · exact fun error => raised _ _

variable [DecidableEq Args]

omit [Inhabited Args] in
theorem conforms_await_approval (steps : List (SagaStep Args)) :
    Conforms disciplined (self.awaitApproval sagaId steps step) :=
  conforms_bind (conforms_memory _) fun _ =>
    conforms_bind (conforms_memory _) fun _ => conforms_write_status _ _

theorem disciplined_attempt_step (journaled : self.store = .journaled)
    {before after : List (SagaStep Args)}
    {post : Option (SagaStep Args) → Progress Args → Prop}
    {failed : StepFault → Progress Args → Prop} (cleared : Cleared sagaId step progress)
    (committed : ∀ step last, last.stage = .idle → post (some step) last)
    (stopped : ∀ last, post none last) (raised : ∀ fault last, failed fault last) :
    wp disciplined (self.attemptStep sagaId before step after) post failed progress := by
  apply attempt_step_rule (Cleared sagaId step) (fun _ => True) (Cleared sagaId step)
  case verifies =>
    apply disciplined_outside
    · trivial
    · intro verdict
      split
      · exact cleared
      · trivial
    · exact fun error => raised _ _
  case checks =>
    intro between cleared
    unfold preflight
    rw [wp_ite]
    split
    · exact disciplined_outside trivial (fun _ => cleared) fun error => raised _ _
    · exact cleared
  case waits =>
    intro between _ _ _
    apply wp_mono (conforms_await_approval _ between)
    · exact fun _ last _ => stopped last
    · exact fun error last _ => raised _ last
  case executes =>
    exact fun cleared _ => disciplined_execute_step journaled cleared committed raised
  case retreats =>
    intro between _
    apply wp_mono (conforms_execute_compensations journaled between)
    · exact fun _ last _ => stopped last
    · exact fun error last _ => raised _ last

omit [Inhabited Args] [DecidableEq Args] in
theorem conforms_fail_step (journaled : self.store = .journaled) (fault : StepFault) :
    Conforms disciplined (self.failStep sagaId step fault) := by
  apply conforms_bind (conforms_execute_compensations journaled)
  intro _
  apply conforms_ite
  · apply conforms_bind
    · apply conforms_attempt
      · exact conforms_bind (conforms_transition (by decide) (by decide)) fun _ => conforms_pure _
      · exact fun _ => conforms_pure _
    · exact fun stepName => conforms_dead_letter_recovery _ _
  · exact conforms_pure _

theorem disciplined_execute_steps (journaled : self.store = .journaled)
    (before steps : List (SagaStep Args)) (idle : progress.stage = .idle) :
    wp disciplined (self.executeSteps sagaId before steps) (fun _ _ => True) (fun _ _ => True)
      progress := by
  let ready (_ _ : List (SagaStep Args)) (progress : Progress Args) : Prop :=
    progress.stage = .idle
  apply execute_steps_rule ready fun _ step _ => Cleared sagaId step
  case closes =>
    exact fun _ => conforms_bind (conforms_memory _) (fun _ => conforms_bind
      (conforms_write_status _ _) fun _ => conforms_memory _) _
  case asks =>
    intro before step rest progress idle
    unfold alreadyCommitted
    rw [wp_ite]
    split
    · rename_i keyed
      apply disciplined_store
      · exact .inl idle
      · intro known
        cases known with
        | true => exact idle
        | false => exact (if_pos keyed.1).symm
      · exact fun error => trivial
    · rename_i keyless
      have blank : truthy step.idempotencyKey ≠ true :=
        fun keyed => keyless ⟨keyed, has_store_of_journaled journaled⟩
      exact idle.trans (if_neg blank).symm
  case attempts =>
    intro before step rest progress cleared
    have running : Cleared sagaId { step with status := .running } progress := cleared
    apply disciplined_attempt_step journaled running
    · exact fun committed last idle => idle
    · exact fun last => trivial
    · intro fault last
      apply wp_mono (conforms_fail_step journaled fault last)
      · exact fun _ _ _ => trivial
      · exact fun _ _ _ => trivial
  case here => exact idle

theorem disciplined_execute_saga (journaled : self.store = .journaled)
    (steps : List (SagaStep Args)) (idle : progress.stage = .idle) :
    wp disciplined (self.executeSaga sagaId steps) (fun _ _ => True) (fun _ _ => True)
      progress := by
  unfold executeSaga
  rw [wp_bind]
  apply disciplined_memory
  · intro saga
    rw [wp_ite]
    split
    · exact disciplined_execute_steps journaled _ _ idle
    · trivial
  · exact fun error => trivial

end Forward

section Recovery

theorem disciplined_recovery {Value : Type} {action : Action Args Value}
    (uses : Uses (fun request => ∃ sagaId, RecoveryCall sagaId request) action)
    (recovering : progress.recovering = true) :
    wp disciplined action (fun _ _ => True) (fun _ _ => True) progress := by
  have simulated := @wp_simulated (coordinatorFace Args) (Progress Args) PyError Value disciplined
    Unit (havoc fun request => ∃ sagaId, RecoveryCall sagaId request)
    (fun _ progress => progress.recovering = true)
  apply wp_mono (simulated _ _ recovering (uses ()))
  · exact fun _ _ _ => trivial
  · exact fun _ _ _ => trivial
  · rintro request _ progress recovering ⟨sagaId, used⟩
    rcases request with request | request | request
    · trivial
    · cases request with
      | transitionEffect => exact ⟨used.2.1, fun same => absurd same used.2.2⟩
      | stepAlreadyCommitted => exact .inr recovering
      | writeTransactionState | pushDeadLetter => trivial
      | _ => exact used.elim
    · cases request with
      | verify | validate | execute => exact used.elim
      | executeCompensation => exact .inl recovering
      | resolveEffect | resolveCompensation | executeIdempotent => trivial
  · rintro request _ before reply after recovering _ rfl
    refine ⟨(), trivial, ?_⟩
    rcases request with request | request | request
    · exact recovering
    · cases request <;> first | exact recovering | rfl
    · exact recovering

theorem disciplined_recover (journaled : self.store = .journaled) :
    Conforms disciplined (self.recover : Action Args Nat) := by
  intro progress
  unfold recover
  rw [if_pos (has_store_of_journaled journaled), wp_bind]
  apply disciplined_store
  · trivial
  · intro incomplete
    exact disciplined_recovery (self.recovery_recover_sagas incomplete 0) rfl
  · exact fun error => trivial

end Recovery

theorem disciplined_api_call [DecidableEq Args] [Inhabited Args]
    (journaled : self.store = .journaled) (request : ApiCall Args)
    (idle : progress.stage = .idle) :
    wp disciplined (request.program self) (fun _ _ => True) (fun _ _ => True) progress := by
  cases request with
  | start sagaId goal tenantId =>
      refine conforms_bind (conforms_memory _) (fun known => conforms_ite (conforms_raise _) ?_) _
      exact conforms_bind (conforms_memory _) fun _ => conforms_write_status _ _
  | execute sagaId steps =>
      unfold ApiCall.program
      rw [wp_void]
      exact disciplined_execute_saga journaled steps idle
  | resume sagaId =>
      unfold ApiCall.program resumeAfterApproval
      rw [wp_void, wp_bind]
      apply disciplined_memory
      · intro saga
        cases saga with
        | none => trivial
        | some saga =>
            rw [wp_ite]
            split
            · trivial
            · rw [wp_bind]
              apply disciplined_memory
              · intro _
                rw [wp_bind]
                apply disciplined_memory
                · intro _
                  rw [wp_bind, write_status_journaled journaled]
                  apply disciplined_store
                  · trivial
                  · intro _
                    apply disciplined_execute_saga journaled
                    simp [Progress.note, Stage.note, idle]
                  · exact fun error => trivial
                · exact fun error => trivial
              · exact fun error => trivial
      · exact fun error => trivial
  | reject sagaId =>
      refine conforms_bind (conforms_bind (conforms_memory _) fun saga => ?_)
        (fun _ => conforms_pure _) _
      cases saga with
      | none => exact conforms_raise _
      | some saga =>
          apply conforms_ite (conforms_raise _)
          apply conforms_bind (conforms_memory _)
          intro _
          apply conforms_bind (conforms_write_status _ _)
          intro _
          exact conforms_bind (conforms_execute_compensations journaled) fun _ => conforms_pure _
  | recover => exact conforms_bind (disciplined_recover journaled) (fun _ => conforms_pure _) _

end Coordinator

end SagaMind
