import SagaMind.Coordinator.Rules

/-!
# Calls on one saga leave the others alone

Every program of the coordinator except `recover` makes store calls on its own
saga only, and `recover` is a sequence of such programs. What another saga's
row and journal hold is therefore the same before and after, and dead letters
are only ever added.
-/

namespace SagaMind

open CallProgram KeyedTable Coordinator

set_option autoImplicit false

variable {Args World : Type}

def StoreCall.writes? : StoreCall Args → Option String
  | .writeTransactionState sagaId .. => some sagaId
  | .prepareEffect sagaId .. => some sagaId
  | .transitionEffect sagaId .. => some sagaId
  | .commitEffect sagaId .. => some sagaId
  | .markStepCommitted sagaId _ => some sagaId
  | .appendCompensation sagaId _ => some sagaId
  | .pushDeadLetter sagaId .. => some sagaId
  | .recordStep sagaId _ => some sagaId
  | .getEffect .. => none
  | .stepAlreadyCommitted .. => none
  | .listIncomplete => none

def ConfinedTo (sagaId : String) : Call Args → Prop
  | .store request => request ≠ .listIncomplete ∧ ∀ owner ∈ request.writes?, owner = sagaId
  | .memory _ => True
  | .outside _ => True

/-- A class of calls that has what a rollback does with the record of a step. -/
structure FilesUndoing (allowed : Call Args → Prop) (sagaId : String) : Prop where
  reads : ∀ stepId, allowed (.store (.getEffect sagaId stepId))
  claims : ∀ stepId, allowed (.store (.transitionEffect sagaId stepId [.applied, .committed]
    .compensating none none))
  closes : ∀ stepId newState error, allowed (.store (.transitionEffect sagaId stepId
    [.compensating] newState none error))

/-- A class of calls that has everything a rollback does. -/
structure Undoes (allowed : Call Args → Prop) (sagaId : String) : Prop
    extends FilesUndoing allowed sagaId where
  compensates : ∀ stepId compensation,
    allowed (.outside (.executeCompensation sagaId stepId compensation))
  remembers : ∀ status, allowed (.memory (.setStatusIfActive sagaId status))
  writes : ∀ status metadata, status ≠ .committed →
    allowed (.store (.writeTransactionState sagaId status metadata))
  reports : ∀ stepName error, allowed (.store (.pushDeadLetter sagaId stepName error))

namespace Coordinator

section Rollback

variable {allowed : Call Args → Prop} {sagaId : String}

theorem uses_store {request : StoreCall Args} (permitted : allowed (.store request)) :
    Uses allowed (onStore request) :=
  @conforms_perform (coordinatorFace Args) _ _ _ fun _ => permitted

theorem uses_mark_compensating (self : Coordinator) (files : FilesUndoing allowed sagaId)
    (stepId : String) :
    Uses allowed (self.markCompensating sagaId stepId : Action Args Unit) := by
  apply conforms_ite
  · apply conforms_bind (uses_store (files.reads stepId))
    intro effect
    apply conforms_ite
    · exact conforms_bind (uses_store (files.claims stepId)) fun _ => conforms_pure _
    · exact conforms_ite (conforms_pure _) (conforms_raise _)
  · exact conforms_pure _

theorem uses_mark_compensated (self : Coordinator) (files : FilesUndoing allowed sagaId)
    (stepId : String) :
    Uses allowed (self.markCompensated sagaId stepId : Action Args Unit) :=
  conforms_ite (conforms_bind (uses_store (files.closes stepId _ _)) fun _ => conforms_pure _)
    (conforms_pure _)

/-- What goes wrong while the failure is recorded is swallowed. -/
theorem swallows_failure (self : Coordinator) (files : FilesUndoing allowed sagaId)
    (stepId error : String) :
    @wp (coordinatorFace Args) Unit PyError Unit (havoc allowed)
      (self.recordCompensationFailure sagaId stepId error) (fun _ _ => True) (fun _ _ => False)
      () := by
  have record : Uses allowed (do
      let effect ← onStore (.getEffect sagaId stepId)
      if effect.state = .compensating then
        let _ ← onStore (.transitionEffect sagaId stepId [.compensating] .compensationFailed none
          (some error))
        pure ()
      else pure () : Action Args Unit) := by
    apply conforms_bind (uses_store (files.reads stepId))
    intro effect
    apply conforms_ite
    · exact conforms_bind (uses_store (files.closes stepId _ _)) fun _ => conforms_pure _
    · exact conforms_pure _
  unfold recordCompensationFailure
  rw [wp_ite]
  split
  · rw [wp_attempt]
    exact wp_mono (record ()) (fun _ _ _ => trivial) fun _ _ _ => trivial
  · trivial

theorem uses_handle_failure (self : Coordinator) (undoes : Undoes allowed sagaId)
    (step : SagaStep Args) (error : String) :
    Uses allowed (self.handleCompensationFailure sagaId step error) := by
  apply conforms_bind
  · exact @conforms_perform (coordinatorFace Args) _ _ _ fun _ => undoes.remembers _
  · intro _
    apply conforms_ite
    · apply conforms_bind (uses_store (undoes.writes _ _ (by decide)))
      intro _
      apply conforms_bind
      · intro _
        apply wp_mono (swallows_failure self undoes.toFilesUndoing step.stepId error)
        · exact fun _ _ _ => trivial
        · exact fun _ _ _ => trivial
      · exact fun _ => uses_store (undoes.reports _ _)
    · exact conforms_pure _

theorem uses_compensate_step (self : Coordinator) (undoes : Undoes allowed sagaId)
    (step : SagaStep Args) : Uses allowed (self.compensateStep sagaId step) := by
  apply conforms_bind (self.uses_mark_compensating undoes.toFilesUndoing step.stepId)
  intro _
  apply conforms_bind
  · exact @conforms_perform (coordinatorFace Args) _ _ _ fun _ => undoes.compensates _ _
  · intro succeeded
    apply conforms_ite
    · apply conforms_bind (self.uses_mark_compensated undoes.toFilesUndoing step.stepId)
      exact fun _ => conforms_pure _
    · exact conforms_bind (self.uses_handle_failure undoes step _) fun _ => conforms_pure _

theorem uses_rollback (self : Coordinator) (undoes : Undoes allowed sagaId)
    (steps : List (SagaStep Args)) : Uses allowed (self.rollback sagaId steps) := by
  induction steps with
  | nil =>
      apply conforms_bind
      · exact @conforms_perform (coordinatorFace Args) _ _ _ fun _ => undoes.remembers _
      · exact fun _ => conforms_ite (uses_store (undoes.writes _ _ (by decide))) (conforms_pure _)
  | cons step rest ih =>
      apply conforms_bind
      · apply conforms_attempt (self.uses_compensate_step undoes step)
        intro error
        exact conforms_bind (self.uses_handle_failure undoes step _) fun _ => conforms_pure _
      · exact fun goOn => conforms_ite ih (conforms_pure _)

theorem uses_execute_compensations (self : Coordinator) (undoes : Undoes allowed sagaId)
    {completed : Action Args (List (SagaStep Args))} (reads : Uses allowed completed) :
    Uses allowed (self.executeCompensations sagaId completed) := by
  apply conforms_bind
  · exact conforms_ite (uses_store (undoes.writes _ _ (by decide))) (conforms_pure _)
  · intro _
    exact conforms_bind reads fun steps => self.uses_rollback undoes steps.reverse

end Rollback

section Programs

variable {sagaId : String}

theorem confined_store {request : StoreCall Args} (own : request.writes? = some sagaId) :
    Uses (ConfinedTo sagaId) (onStore request) := by
  apply @conforms_perform (coordinatorFace Args)
  intro _
  constructor
  · rintro rfl
    cases own
  · exact fun _ writes => Option.some.inj (writes.symm.trans own)

theorem confined_read {request : StoreCall Args} (single : request ≠ .listIncomplete)
    (reads : request.writes? = none) : Uses (ConfinedTo sagaId) (onStore request) := by
  apply @conforms_perform (coordinatorFace Args)
  exact fun _ => ⟨single, fun _ writes => by simp [reads] at writes⟩

theorem confined_memory (request : MemoryCall Args) :
    Uses (ConfinedTo sagaId) (onMemory request) :=
  @conforms_perform (coordinatorFace Args) _ _ _ fun _ => trivial

theorem confined_outside (request : OutsideCall Args) :
    Uses (ConfinedTo sagaId) (onOutside request) :=
  @conforms_perform (coordinatorFace Args) _ _ _ fun _ => trivial

theorem confined_flagged {Value : Type} {action : Action Args Value}
    (confined : Uses (ConfinedTo sagaId) action) (journaled ambiguous : Bool) :
    Uses (ConfinedTo sagaId) (flagged journaled ambiguous action) :=
  conforms_attempt confined fun _ => conforms_raise _

theorem confined_write_status (self : Coordinator) (status : SagaStatus)
    (metadata : Metadata Args) :
    Uses (ConfinedTo sagaId) (self.writeStatus sagaId status metadata) :=
  conforms_ite (confined_store rfl) (conforms_pure _)

theorem confined_dead_letter_recovery (stepName error : String) :
    Uses (ConfinedTo sagaId) (deadLetterRecovery sagaId stepName error : Action Args Unit) :=
  conforms_bind (confined_store rfl) fun _ => confined_store rfl

theorem confined_undoes : Undoes (@ConfinedTo Args sagaId) sagaId where
  reads := fun _ => ⟨nofun, nofun⟩
  claims := fun _ => ⟨nofun, fun _ writes => (Option.some.inj writes).symm⟩
  closes := fun _ _ _ => ⟨nofun, fun _ writes => (Option.some.inj writes).symm⟩
  compensates := fun _ _ => trivial
  remembers := fun _ => trivial
  writes := fun _ _ _ => ⟨nofun, fun _ writes => (Option.some.inj writes).symm⟩
  reports := fun _ _ => ⟨nofun, fun _ writes => (Option.some.inj writes).symm⟩

theorem confined_execute_compensations (self : Coordinator)
    {completed : Action Args (List (SagaStep Args))}
    (confined : Uses (ConfinedTo sagaId) completed) :
    Uses (ConfinedTo sagaId) (self.executeCompensations sagaId completed) :=
  self.uses_execute_compensations confined_undoes confined

theorem confined_await_approval [DecidableEq Args] (self : Coordinator)
    (steps : List (SagaStep Args)) (step : SagaStep Args) :
    Uses (ConfinedTo sagaId) (self.awaitApproval sagaId steps step) :=
  conforms_bind (confined_memory _) fun _ =>
    conforms_bind (confined_memory _) fun _ => self.confined_write_status _ _

theorem confined_mark_executing (self : Coordinator) (step : SagaStep Args) :
    Uses (ConfinedTo sagaId) (self.markExecuting sagaId step) :=
  conforms_ite (conforms_bind (confined_flagged (confined_store rfl) _ _) fun _ =>
    conforms_bind (confined_flagged (confined_store rfl) _ _) fun _ => conforms_pure _) (conforms_pure _)

theorem confined_abort_step {Value : Type} (self : Coordinator) (step : SagaStep Args)
    (result : ExecuteResult Args) :
    Uses (ConfinedTo sagaId) (self.abortStep sagaId step result : Program (coordinatorFace Args) StepFault Value) :=
  conforms_ite (conforms_bind (confined_flagged (confined_store rfl) _ _) fun _ => conforms_raise _)
    (conforms_raise _)

theorem confined_publish_unjournaled (self : Coordinator) (step : SagaStep Args) :
    Uses (ConfinedTo sagaId) (self.publishUnjournaled sagaId step) :=
  conforms_ite (conforms_bind (confined_store rfl) fun _ => conforms_ite (confined_store rfl) (conforms_pure _))
    (conforms_pure _)

theorem confined_publish_step (self : Coordinator) (step : SagaStep Args) :
    Uses (ConfinedTo sagaId) (self.publishStep sagaId step) :=
  conforms_ite (conforms_bind (confined_flagged (confined_store rfl) _ _) fun _ => conforms_pure _)
    (confined_flagged (self.confined_publish_unjournaled step) _ _)

theorem confined_preflight (self : Coordinator) (step : SagaStep Args) :
    Uses (ConfinedTo sagaId) (self.preflight step) :=
  conforms_ite (confined_outside _) (conforms_pure _)

theorem confined_fail_step (self : Coordinator) (step : SagaStep Args) (fault : StepFault) :
    Uses (ConfinedTo sagaId) (self.failStep sagaId step fault) := by
  refine conforms_bind (self.confined_execute_compensations (confined_memory _)) fun _ =>
    conforms_ite ?_ (conforms_pure _)
  refine conforms_bind (conforms_attempt ?_ fun _ => conforms_pure _) fun _ =>
    confined_dead_letter_recovery _ _
  exact conforms_bind (confined_store rfl) fun _ => conforms_pure _

section Forward

variable [Inhabited Args]

theorem confined_mark_applied (self : Coordinator) (step : SagaStep Args)
    (result : ExecuteResult Args) :
    Uses (ConfinedTo sagaId) (self.markApplied sagaId step result) :=
  conforms_ite (conforms_bind (confined_flagged (confined_store rfl) _ _) fun _ => conforms_pure _)
    (conforms_pure _)

theorem confined_record_history (self : Coordinator) (step : SagaStep Args)
    (result : ExecuteResult Args) :
    Uses (ConfinedTo sagaId) (self.recordHistory sagaId step result) :=
  conforms_ite (confined_store rfl) (conforms_pure _)

theorem confined_commit_step (self : Coordinator) (step : SagaStep Args)
    (result : ExecuteResult Args) :
    Uses (ConfinedTo sagaId) (self.commitStep sagaId step result) :=
  conforms_bind (self.confined_mark_applied _ _) fun _ =>
    conforms_bind (confined_flagged (confined_memory _) _ _) fun _ =>
      conforms_bind (self.confined_publish_step _) fun _ =>
        conforms_bind (confined_flagged (self.confined_record_history _ _) _ _) fun _ => conforms_pure _

theorem confined_execute_step (self : Coordinator) (step : SagaStep Args) :
    Uses (ConfinedTo sagaId) (self.executeStep sagaId step) :=
  conforms_bind (self.confined_mark_executing _) fun _ =>
    conforms_bind (confined_flagged (confined_outside _) _ _) fun _ =>
      conforms_ite (self.confined_commit_step _ _) (self.confined_abort_step _ _)

variable [DecidableEq Args]

theorem confined_attempt_step (self : Coordinator) (before : List (SagaStep Args))
    (step : SagaStep Args) (after : List (SagaStep Args)) :
    Uses (ConfinedTo sagaId) (self.attemptStep sagaId before step after) := by
  refine conforms_bind (confined_flagged (confined_outside _) _ _) fun verdict => conforms_ite ?_ ?_
  · refine conforms_bind (confined_flagged (self.confined_preflight _) _ _) fun _ => conforms_ite ?_ ?_
    · exact conforms_bind (confined_flagged (self.confined_await_approval _ _) _ _)
        fun _ => conforms_pure _
    · exact conforms_bind (self.confined_execute_step _) fun _ => conforms_pure _
  · exact conforms_bind
      (confined_flagged (self.confined_execute_compensations (confined_memory _)) _ _)
      fun _ => conforms_pure _

theorem confined_execute_steps (self : Coordinator) (before steps : List (SagaStep Args)) :
    Uses (ConfinedTo sagaId) (self.executeSteps sagaId before steps) := by
  induction steps generalizing before with
  | nil =>
      exact conforms_bind (confined_memory _) fun _ => conforms_bind (self.confined_write_status _ _)
        fun _ => conforms_bind (confined_memory _) fun _ => conforms_pure _
  | cons step after ih =>
      refine conforms_bind (conforms_ite (confined_read nofun rfl) (conforms_pure _)) fun skip =>
        conforms_ite (ih _) ?_
      refine conforms_bind (conforms_attempt (self.confined_attempt_step _ _ _) fun fault => ?_)
        fun outcome => ?_
      · exact conforms_bind (self.confined_fail_step _ _) fun _ => conforms_pure _
      · cases outcome with
        | none => exact conforms_pure _
        | some committed => exact ih _

theorem confined_execute_saga (self : Coordinator) (steps : List (SagaStep Args)) :
    Uses (ConfinedTo sagaId) (self.executeSaga sagaId steps) :=
  conforms_bind (confined_memory _) fun _ =>
    conforms_ite (self.confined_execute_steps _ _) (conforms_raise _)

theorem confined_resume_after_approval (self : Coordinator) :
    Uses (ConfinedTo sagaId) (self.resumeAfterApproval sagaId : Action Args Bool) := by
  refine conforms_bind (confined_memory _) fun saga => ?_
  cases saga with
  | none => exact conforms_raise _
  | some saga =>
      refine conforms_ite (conforms_raise _) (conforms_bind (confined_memory _) fun _ =>
        conforms_bind (confined_memory _) fun _ => conforms_bind (self.confined_write_status _ _)
          fun _ => self.confined_execute_saga _)

end Forward

theorem confined_reject_pending (self : Coordinator) :
    Uses (ConfinedTo sagaId) (self.rejectPending sagaId : Action Args Bool) := by
  refine conforms_bind (confined_memory _) fun saga => ?_
  cases saga with
  | none => exact conforms_raise _
  | some saga =>
      exact conforms_ite (conforms_raise _) (conforms_bind (confined_memory _) fun _ =>
        conforms_bind (self.confined_write_status _ _) fun _ =>
          conforms_bind (self.confined_execute_compensations (confined_memory _)) fun _ => conforms_pure _)

theorem confined_start_transaction_log (self : Coordinator) (goal tenantId : String) :
    Uses (ConfinedTo sagaId) (self.startTransactionLog sagaId goal tenantId : Action Args Unit) :=
  conforms_bind (confined_memory _) fun _ => conforms_ite (conforms_raise _)
    (conforms_bind (confined_memory _) fun _ => self.confined_write_status _ _)

end Programs

end Coordinator

/-- The calls of `recover` on one saga: records move along the diagram, and
nothing is executed. -/
def RecoveryCall (sagaId : String) : Call Args → Prop
  | .store (.transitionEffect owner _ expected newState _ _) =>
      owner = sagaId ∧ (∀ state ∈ expected, edge state newState = true) ∧ newState ≠ .executing
  | .store (.writeTransactionState owner status _) => owner = sagaId ∧ status ≠ .committed
  | .store (.pushDeadLetter owner ..) => owner = sagaId
  | .store (.stepAlreadyCommitted ..) => True
  | .store _ => False
  | .outside (.executeCompensation owner ..) => owner = sagaId
  | .outside (.resolveEffect _) => True
  | .outside (.resolveCompensation _) => True
  | .outside (.executeIdempotent ..) => True
  | .outside _ => False
  | .memory _ => True

theorem RecoveryCall.confined {sagaId : String} {request : Call Args}
    (recovery : RecoveryCall sagaId request) : ConfinedTo sagaId request := by
  rcases request with request | request | request
  · trivial
  · cases request with
    | transitionEffect =>
        exact ⟨nofun, fun _ writes => (Option.some.inj writes).symm.trans recovery.1⟩
    | writeTransactionState =>
        exact ⟨nofun, fun _ writes => (Option.some.inj writes).symm.trans recovery.1⟩
    | pushDeadLetter =>
        exact ⟨nofun, fun _ writes => (Option.some.inj writes).symm.trans recovery⟩
    | stepAlreadyCommitted => exact ⟨nofun, nofun⟩
    | _ => exact recovery.elim
  · trivial

/-- The calls of `recover` on the records of a saga. The only status that they
write is an escalation, and none of them is of the memory. -/
def WalkCall (sagaId : String) : Call Args → Prop
  | .memory _ => False
  | .store (.writeTransactionState owner status metadata) =>
      owner = sagaId ∧ status = .compensationFailed ∧ metadata.pendingSteps = none
  | request => RecoveryCall sagaId request

/-- The calls of `recover` on a saga that does not wait for an approval. -/
def SettleCall (sagaId : String) : Call Args → Prop
  | .memory _ => False
  | .store (.writeTransactionState owner status metadata) =>
      owner = sagaId ∧ status ≠ .committed ∧ metadata.pendingSteps = none
  | request => RecoveryCall sagaId request

theorem WalkCall.settle {sagaId : String} {request : Call Args} (walk : WalkCall sagaId request) :
    SettleCall sagaId request := by
  rcases request with request | request | request
  · exact walk
  · cases request with
    | writeTransactionState => exact ⟨walk.1, by rw [walk.2.1]; decide, walk.2.2⟩
    | _ => exact walk
  · exact walk

theorem SettleCall.recovery {sagaId : String} {request : Call Args}
    (settle : SettleCall sagaId request) : RecoveryCall sagaId request := by
  cases request with
  | memory request => trivial
  | store request =>
      cases request with
      | writeTransactionState => exact ⟨settle.1, settle.2.1⟩
      | _ => exact settle
  | outside request => exact settle

namespace Coordinator

section Recovery

variable {sagaId : String}

theorem recovery_store {request : StoreCall Args} (permitted : WalkCall sagaId (.store request)) :
    Uses (WalkCall sagaId) (onStore request) :=
  @conforms_perform (coordinatorFace Args) _ _ _ fun _ => permitted

theorem recovery_outside {request : OutsideCall Args}
    (permitted : WalkCall sagaId (.outside request)) :
    Uses (WalkCall sagaId) (onOutside request) :=
  @conforms_perform (coordinatorFace Args) _ _ _ fun _ => permitted

theorem recovery_transition {stepId : String} {expected : List EffectState}
    {newState : EffectState} {result : Option Args} {error : Option String}
    (edges : ∀ state ∈ expected, edge state newState = true) (other : newState ≠ .executing) :
    Uses (WalkCall sagaId)
      (onStore (.transitionEffect sagaId stepId expected newState result error)) :=
  recovery_store ⟨rfl, edges, other⟩

theorem recovery_dead_letter (stepName error : String) :
    Uses (WalkCall sagaId) (deadLetterRecovery sagaId stepName error : Action Args Unit) :=
  conforms_bind (recovery_store ⟨rfl, rfl, rfl⟩) fun _ => recovery_store rfl

theorem recovery_mark_ambiguous (effect : Effect Args) (error : String) :
    Uses (WalkCall sagaId) (markAmbiguous sagaId effect error) := by
  apply conforms_bind
  · apply conforms_ite
    · exact conforms_bind (recovery_transition (by decide) (by decide)) fun _ => conforms_pure _
    · exact conforms_pure _
  · exact fun _ => recovery_dead_letter _ _

theorem recovery_fail_compensation (effect : Effect Args) (error : String) :
    Uses (WalkCall sagaId) (failRecoveryCompensation sagaId effect error) :=
  conforms_bind (recovery_transition (by decide) (by decide)) fun _ => recovery_dead_letter _ _

theorem recovery_resolve_forward_effect (self : Coordinator) (effect : Effect Args) :
    Uses (WalkCall sagaId) (self.resolveForwardEffect effect) := by
  have ask : Uses (WalkCall sagaId) (self.askResolver effect) := by
    apply conforms_ite
    · exact conforms_bind (recovery_outside trivial) fun _ => conforms_pure _
    · apply conforms_ite
      · exact conforms_bind (recovery_outside trivial) fun _ => conforms_pure _
      · exact conforms_pure _
  apply conforms_bind
  · exact conforms_ite (recovery_store trivial) (conforms_pure _)
  · exact fun _ => conforms_ite (conforms_pure _) ask

theorem recovery_resolve_compensation (self : Coordinator) (effect : Effect Args) :
    Uses (WalkCall sagaId) (self.resolveCompensation effect) :=
  conforms_ite (conforms_bind (recovery_outside trivial) fun _ => conforms_pure _) (conforms_pure _)

theorem recovery_run_compensation (effect : Effect Args) :
    Uses (WalkCall sagaId) (runRecoveryCompensation sagaId effect) := by
  apply conforms_attempt
  · apply conforms_bind
    · exact recovery_outside rfl
    · intro succeeded
      apply conforms_ite
      · exact conforms_bind (recovery_transition (by decide) (by decide)) fun _ => conforms_pure _
      · exact conforms_bind (recovery_fail_compensation _ _) fun _ => conforms_pure _
  · exact fun error => conforms_bind (recovery_fail_compensation _ _) fun _ => conforms_pure _

theorem recovery_recover_compensation (effect : Effect Args) (alreadyMarked : Bool) :
    Uses (WalkCall sagaId) (recoverCompensation sagaId effect alreadyMarked) := by
  apply conforms_ite
  · exact recovery_run_compensation effect
  · exact conforms_bind (recovery_transition (by decide) (by decide)) fun _ =>
      recovery_run_compensation _

theorem recovery_undo_effect (self : Coordinator) (effect : Effect Args) :
    Uses (WalkCall sagaId) (self.undoEffect sagaId effect) := by
  unfold undoEffect
  split
  · apply conforms_bind (conforms_caught (self.recovery_resolve_compensation effect))
    intro outcome
    rcases outcome with error | resolution
    · exact conforms_bind (recovery_fail_compensation _ _) fun _ => conforms_pure _
    · cases resolution with
      | applied =>
          exact conforms_bind (recovery_transition (by decide) (by decide)) fun _ => conforms_pure _
      | notApplied => exact recovery_recover_compensation effect true
      | unknown => exact conforms_bind (recovery_fail_compensation _ _) fun _ => conforms_pure _
  · exact recovery_recover_compensation effect false
  · exact recovery_recover_compensation effect false
  · exact conforms_pure _

theorem recovery_settle_forward (self : Coordinator) (effect : Effect Args) :
    Uses (WalkCall sagaId) (self.settleForward sagaId effect) := by
  apply conforms_bind (conforms_caught (self.recovery_resolve_forward_effect effect))
  intro outcome
  rcases outcome with error | resolution
  · exact conforms_bind (recovery_mark_ambiguous _ _) fun _ => conforms_pure _
  · cases resolution with
    | applied =>
        exact conforms_bind (recovery_transition (by decide) (by decide)) fun _ =>
          self.recovery_undo_effect _
    | notApplied =>
        exact conforms_bind (recovery_transition (by decide) (by decide)) fun _ => conforms_pure _
    | unknown => exact conforms_bind (recovery_mark_ambiguous _ _) fun _ => conforms_pure _

theorem recovery_recover_effect (self : Coordinator) (effect : Effect Args) :
    Uses (WalkCall sagaId) (self.recoverEffect sagaId effect) := by
  unfold recoverEffect
  split
  · exact conforms_pure _
  · exact conforms_pure _
  · exact conforms_bind (recovery_dead_letter _ _) fun _ => conforms_pure _
  · exact conforms_bind (recovery_transition (by decide) (by decide)) fun _ => conforms_pure _
  · exact self.recovery_settle_forward effect
  · exact self.recovery_settle_forward effect
  · exact self.recovery_undo_effect effect

theorem recovery_recover_effects (self : Coordinator) (effects : List (Effect Args)) :
    Uses (WalkCall sagaId) (self.recoverEffects sagaId effects) := by
  induction effects with
  | nil => exact conforms_pure _
  | cons effect earlier ih =>
      apply conforms_bind (self.recovery_recover_effect effect)
      exact fun _ => conforms_ite ih (conforms_pure _)

theorem recovery_replay_compensations (compensations : List (ActionPayload Args)) :
    Uses (WalkCall sagaId) (replayCompensations sagaId compensations) := by
  induction compensations with
  | nil => exact conforms_pure _
  | cons compensation earlier ih =>
      apply conforms_bind
      · apply conforms_caught
        exact recovery_outside rfl
      · intro outcome
        rcases outcome with error | succeeded
        · exact conforms_pure _
        · cases succeeded with
          | true => exact ih
          | false => exact conforms_pure _

/-- A saga that does not wait for an approval is settled without the memory. -/
theorem recovery_settle_saga (self : Coordinator) {saga : IncompleteSaga Args}
    (working : awaitsApproval saga.status saga.metadata = false) :
    Uses (SettleCall saga.sagaId) (self.recoverSaga saga) := by
  have write : ∀ (status : SagaStatus) (metadata : Metadata Args), status ≠ .committed →
      metadata.pendingSteps = none → Uses (SettleCall saga.sagaId)
        (onStore (.writeTransactionState saga.sagaId status metadata)) :=
    fun _ _ unmade bare => @conforms_perform (coordinatorFace Args) _ _ _ fun _ =>
      ⟨rfl, unmade, bare⟩
  have letter : ∀ error, Uses (SettleCall saga.sagaId)
      (onStore (.pushDeadLetter saga.sagaId "crash_recovery" error) : Action Args Unit) :=
    fun _ => @conforms_perform (coordinatorFace Args) _ _ _ fun _ => rfl
  unfold recoverSaga
  rw [if_neg (by simp [working])]
  apply conforms_ite
  · apply conforms_bind (uses_mono (fun _ => WalkCall.settle) (self.recovery_recover_effects _))
    intro settled
    apply conforms_ite
    · exact conforms_bind (write _ _ (by decide) rfl) fun _ => conforms_pure _
    · exact conforms_pure _
  · apply conforms_bind (uses_mono (fun _ => WalkCall.settle) (recovery_replay_compensations _))
    intro outcome
    cases outcome with
    | none => exact conforms_bind (write _ _ (by decide) rfl) fun _ => conforms_pure _
    | some error =>
        exact conforms_bind (write _ _ (by decide) rfl) fun _ =>
          conforms_bind (letter error) fun _ => conforms_pure _

theorem recovery_recover_saga (self : Coordinator) (saga : IncompleteSaga Args) :
    Uses (RecoveryCall saga.sagaId) (self.recoverSaga saga) := by
  cases working : awaitsApproval saga.status saga.metadata with
  | false => exact uses_mono (fun _ => SettleCall.recovery) (self.recovery_settle_saga working)
  | true =>
      unfold recoverSaga
      rw [if_pos working]
      apply conforms_bind
      · exact @conforms_perform (coordinatorFace Args) _ _ _ fun _ => trivial
      · exact fun _ => conforms_pure _

theorem confined_recover_saga (self : Coordinator) (saga : IncompleteSaga Args) :
    Uses (ConfinedTo saga.sagaId) (self.recoverSaga saga) :=
  uses_mono (fun _ => RecoveryCall.confined) (self.recovery_recover_saga saga)

theorem recovery_recover_sagas (self : Coordinator) (sagas : List (IncompleteSaga Args))
    (count : Nat) :
    Uses (fun request => ∃ sagaId, RecoveryCall sagaId request)
      (self.recoverSagas sagas count) := by
  induction sagas generalizing count with
  | nil => exact conforms_pure _
  | cons saga rest ih =>
      apply conforms_bind
      · exact uses_mono (fun _ recovery => ⟨_, recovery⟩) (self.recovery_recover_saga saga)
      · exact fun rolledBack => ih _

end Recovery

end Coordinator

/-- What a call on `sagaId` keeps of everything else. -/
structure Untouched (sagaId : String) (before after : Store Args) : Prop where
  row : ∀ other, other ≠ sagaId → after.state.find? other = before.state.find? other
  journal : ∀ other, other ≠ sagaId → after.effects other = before.effects other
  letters : ∀ letter ∈ before.dead, letter ∈ after.dead

namespace Untouched

variable {sagaId : String}

theorem refl (store : Store Args) : Untouched sagaId store store :=
  ⟨fun _ _ => rfl, fun _ _ => rfl, fun _ member => member⟩

theorem trans {first second third : Store Args} (left : Untouched sagaId first second)
    (right : Untouched sagaId second third) : Untouched sagaId first third where
  row := fun other apart => (right.row other apart).trans (left.row other apart)
  journal := fun other apart => (right.journal other apart).trans (left.journal other apart)
  letters := fun letter member => right.letters letter (left.letters letter member)

theorem write_state (store : Store Args) (status : SagaStatus) (metadata : Metadata Args) :
    Untouched sagaId store (store.writeTransactionState sagaId status metadata) where
  row := fun other apart => by rw [Store.find_write_state, if_neg (Ne.symm apart)]
  journal := fun _ _ => rfl
  letters := fun _ member => member

theorem put_effect (store : Store Args) (effect : Effect Args) :
    Untouched sagaId store (store.putEffect sagaId effect) where
  row := fun _ _ => rfl
  journal := fun other apart => by simp [Store.putEffect, apart]
  letters := fun _ member => member

theorem publish (store : Store Args) (key : Option String) :
    Untouched sagaId store (store.publish sagaId key) := by
  unfold Store.publish
  split
  · exact ⟨fun _ _ => rfl, fun _ _ => rfl, fun _ member => member⟩
  · exact refl store

variable [DecidableEq Args]

theorem serve {request : StoreCall Args} (own : ∀ owner ∈ request.writes?, owner = sagaId)
    (store : Store Args) : Untouched sagaId store (request.serve store).2 := by
  cases request with
  | writeTransactionState owner status metadata =>
      obtain rfl := own owner rfl
      exact write_state store status metadata
  | prepareEffect owner stepId stepName action compensation key =>
      obtain rfl := own owner rfl
      rcases store.prepare_effect_cases owner stepId stepName action compensation key with
        ⟨_, _, _, same⟩ | ⟨_, same⟩ | ⟨_, _, _, same⟩ <;> rw [StoreCall.serve, same]
      · exact refl store
      · exact refl store
      · exact put_effect store _
  | transitionEffect owner stepId expected newState result error =>
      obtain rfl := own owner rfl
      rcases store.transition_effect_cases owner stepId expected newState result error with
        ⟨_, _, _, same⟩ | ⟨_, _, same⟩ <;> rw [StoreCall.serve, same]
      · exact put_effect store _
      · exact refl store
  | commitEffect owner stepId key =>
      obtain rfl := own owner rfl
      rcases store.commit_effect_cases owner stepId key with
        ⟨_, _, _, same⟩ | ⟨_, _, same⟩ <;> rw [StoreCall.serve, same]
      · exact (put_effect store _).trans (publish _ key)
      · exact refl store
  | pushDeadLetter owner stepName error =>
      exact ⟨fun _ _ => rfl, fun _ _ => rfl, fun _ member => List.mem_append_left _ member⟩
  | getEffect => exact refl store
  | stepAlreadyCommitted => exact refl store
  | listIncomplete => exact refl store
  | markStepCommitted => exact ⟨fun _ _ => rfl, fun _ _ => rfl, fun _ member => member⟩
  | appendCompensation => exact ⟨fun _ _ => rfl, fun _ _ => rfl, fun _ member => member⟩
  | recordStep => exact ⟨fun _ _ => rfl, fun _ _ => rfl, fun _ member => member⟩

end Untouched

theorem untouched_call [DecidableEq Args] {sagaId : String} {outside : Outside Args World}
    {request : Call Args} {before after : System Args World}
    {reply : Except PyError request.Answer} (own : ConfinedTo sagaId request)
    (taken : serveCall outside request before reply after) :
    Untouched sagaId before.store after.store := by
  cases request with
  | memory request =>
      obtain ⟨-, rfl⟩ := taken
      exact .refl _
  | store request =>
      obtain ⟨-, rfl⟩ := taken
      exact .serve own.2 _
  | outside request =>
      obtain ⟨world, -, rfl⟩ := taken
      exact .refl _

/-- At every call and at the end of a confined program the other sagas are as
they were. -/
theorem wp_untouched [DecidableEq Args] {Err Value : Type} {sagaId : String}
    {outside : Outside Args World} {inv : System Args World → Prop}
    {program : Program (coordinatorFace Args) Err Value}
    (confined : Uses (ConfinedTo sagaId) program) {post : Value → System Args World → Prop}
    {failed : Err → System Args World → Prop} {state : System Args World}
    (run : wp (machine outside inv) program post failed state) :
    wp (machine outside fun after => inv after ∧ Untouched sagaId state.store after.store) program
      (fun value after => post value after ∧ Untouched sagaId state.store after.store)
      (fun error after => failed error after ∧ Untouched sagaId state.store after.store) state := by
  apply wp_keeps _ _ (fun _ _ _ _ own taken => untouched_call own taken) confined run
  · exact fun before => .refl before.store
  · exact fun left right => left.trans right

end SagaMind
