import SagaMind.Coordinator.Sequential

/-!
# Rules of a batch

One rule for each method that works on a batch, over any machine. What a method
owes follows from what the methods it calls owe, and the two loops follow from
what one turn owes. Proofs about batches do not unfold these methods.
-/

namespace SagaMind

open CallProgram

set_option autoImplicit false

namespace Coordinator

variable {Args State : Type} {served : Machine (coordinatorFace Args) State} {self : Coordinator}
  {sagaId : String} {step : SagaStep Args} {state : State}

def undoStep (self : Coordinator) (sagaId : String) (step : SagaStep Args) : Action Args Bool :=
  (self.compensateStep sagaId step).attempt fun error => do
    self.handleCompensationFailure sagaId step error.text
    pure false

def closeRollback (self : Coordinator) (sagaId : String) : Action Args Unit := do
  onMemory (.setStatusIfActive sagaId .rolledBack)
  self.writeStatus sagaId .rolledBack {}

def closeBatch (self : Coordinator) (sagaId : String) : Action Args Unit := do
  onMemory (.setStatus sagaId .committed)
  self.writeStatus sagaId .committed {}
  onMemory (.evictIfNeeded self.maxActiveSagas)

section Rollback

variable {post : Unit → State → Prop} {failed : PyError → State → Prop}

theorem rollback_rule (rolling : List (SagaStep Args) → State → Prop)
    (closes : ∀ {state}, rolling [] state →
      wp served (self.closeRollback sagaId) post failed state)
    (undoes : ∀ {step rest state}, rolling (step :: rest) state →
      wp served (self.undoStep sagaId step)
        (fun goOn after => if goOn then rolling rest after else post () after) failed state)
    {steps : List (SagaStep Args)} (here : rolling steps state) :
    wp served (self.rollback sagaId steps) post failed state := by
  induction steps generalizing state with
  | nil => exact closes here
  | cons step rest ih =>
      unfold rollback
      apply wp_seq (undoes here)
      intro goOn after reached
      cases goOn with
      | true => exact ih reached
      | false => exact reached

theorem execute_compensations_rule {completed : Action Args (List (SagaStep Args))}
    (begun : State → Prop)
    (begins : wp served (self.writeStatus sagaId .compensating {} : Action Args Unit)
      (fun _ => begun) failed state)
    (rolls : ∀ {between}, begun between → wp served completed
      (fun steps after => wp served (self.rollback sagaId steps.reverse) post failed after) failed
      between) :
    wp served (self.executeCompensations sagaId completed) post failed state := by
  unfold executeCompensations
  apply wp_seq begins
  intro _ between reached
  rw [wp_bind]
  exact rolls reached

theorem fail_step_rule {fault : StepFault} (undone : State → Prop)
    (compensates : wp served (self.executeCompensations sagaId (completedSteps sagaId))
      (fun _ => undone) failed state)
    (quarantines : ∀ {between}, undone between → fault.executionAmbiguous = true →
      fault.journaled = true → wp served (quarantineStep sagaId step) post failed between)
    (rests : ∀ {between}, undone between →
      ¬ (fault.executionAmbiguous = true ∧ fault.journaled = true) → post () between) :
    wp served (self.failStep sagaId step fault) post failed state := by
  unfold failStep
  apply wp_seq compensates
  intro _ between reached
  rw [wp_ite]
  split
  · rename_i ambiguous
    exact quarantines reached ambiguous.1 ambiguous.2
  · rename_i certain
    exact rests reached certain

end Rollback

section Steps

variable [Inhabited Args]

theorem execute_step_rule {post : SagaStep Args → State → Prop}
    {failed : StepFault → State → Prop} (marked : State → Prop)
    (marks : wp served (self.markExecuting sagaId step) (fun _ => marked) failed state)
    (runs : ∀ {between}, marked between → wp served (onOutside (.execute sagaId step))
      (fun result after =>
        if result.succeeded then wp served (self.commitStep sagaId step result) post failed after
        else wp served (self.abortStep sagaId step result) post failed after)
      (fun error => failed
        { error, journaled := self.journals, executionAmbiguous := self.journals }) between) :
    wp served (self.executeStep sagaId step) post failed state := by
  unfold executeStep
  apply wp_seq marks
  intro _ between reached
  rw [wp_bind, wp_flagged]
  apply wp_mono (runs reached)
  · intro result after ended
    rw [wp_ite]
    exact ended
  · exact fun _ _ raised => raised

variable [DecidableEq Args]

/-- The `try` block: nothing but the step itself is executed in doubt. -/
theorem attempt_step_rule {before after : List (SagaStep Args)}
    {post : Option (SagaStep Args) → State → Prop} {failed : StepFault → State → Prop}
    (verified refused admitted : State → Prop)
    (verifies : wp served (onOutside (.verify step.action.arguments step.invariants))
      (fun verdict between => if verdict.1 then verified between else refused between)
      (fun error => failed { error, journaled := false, executionAmbiguous := false }) state)
    (checks : ∀ {between}, verified between → wp served (self.preflight step) (fun _ => admitted)
      (fun error => failed { error, journaled := false, executionAmbiguous := false }) between)
    (waits : ∀ {between}, admitted between → step.requiresApproval = true →
      step.approved = false →
      wp served (self.awaitApproval sagaId
        (before ++ { step with status := .awaitingApproval } :: after)
        { step with status := .awaitingApproval }) (fun _ => post none)
        (fun error => failed { error, journaled := false, executionAmbiguous := false }) between)
    (executes : ∀ {between}, admitted between →
      (step.requiresApproval = true → step.approved = true) →
      wp served (self.executeStep sagaId step) (fun committed => post (some committed)) failed
        between)
    (retreats : ∀ {between}, refused between →
      wp served (self.executeCompensations sagaId (completedSteps sagaId)) (fun _ => post none)
        (fun error => failed { error, journaled := false, executionAmbiguous := false })
        between) :
    wp served (self.attemptStep sagaId before step after) post failed state := by
  unfold attemptStep
  rw [wp_bind, wp_flagged]
  apply wp_mono verifies
  · intro verdict between reached
    dsimp only
    rw [wp_ite]
    split
    · rename_i accepted
      rw [if_pos accepted] at reached
      rw [wp_bind, wp_flagged]
      apply wp_mono (checks reached)
      · intro _ between reached
        rw [wp_ite]
        split
        · rename_i gate
          rw [wp_bind, wp_flagged]
          exact waits reached gate.1 (by simpa using gate.2)
        · rename_i passed
          rw [wp_bind]
          apply executes reached
          intro gated
          by_contra waiting
          exact passed ⟨gated, waiting⟩
      · exact fun _ _ raised => raised
    · rename_i rejected
      rw [if_neg rejected] at reached
      rw [wp_bind, wp_flagged]
      exact retreats reached
  · exact fun _ _ raised => raised

theorem execute_steps_rule {post : Bool → State → Prop} {failed : PyError → State → Prop}
    (ready : List (SagaStep Args) → List (SagaStep Args) → State → Prop)
    (due : List (SagaStep Args) → SagaStep Args → List (SagaStep Args) → State → Prop)
    (closes : ∀ {before state}, ready before [] state →
      wp served (self.closeBatch sagaId) (fun _ => post true) failed state)
    (asks : ∀ {before step rest state}, ready before (step :: rest) state →
      wp served (self.alreadyCommitted sagaId step)
        (fun skip between =>
          if skip then ready (before ++ [{ step with status := .committed }]) rest between
          else due before step rest between) failed state)
    (attempts : ∀ {before step rest state}, due before step rest state →
      wp served (self.attemptStep sagaId before { step with status := .running } rest)
        (fun outcome last => match outcome with
          | some committed => ready (before ++ [committed]) rest last
          | none => post false last)
        (fun fault last => wp served (self.failStep sagaId { step with status := .running } fault)
          (fun _ => post false) failed last) state)
    {before steps : List (SagaStep Args)} (here : ready before steps state) :
    wp served (self.executeSteps sagaId before steps) post failed state := by
  induction steps generalizing before state with
  | nil =>
      have closing := closes here
      unfold closeBatch at closing
      unfold executeSteps
      rw [wp_bind] at closing ⊢
      apply wp_mono closing
      · intro _ between wrote
        rw [wp_bind] at wrote ⊢
        apply wp_mono wrote
        · intro _ between evicted
          rw [wp_bind]
          exact wp_mono evicted (fun _ _ closed => closed) fun _ _ stopped => stopped
        · exact fun _ _ stopped => stopped
      · exact fun _ _ stopped => stopped
  | cons step rest ih =>
      unfold executeSteps
      apply wp_seq (asks here)
      intro skip between reached
      rw [wp_ite]
      split
      · rename_i skipped
        rw [if_pos skipped] at reached
        exact ih reached
      · rename_i unknown
        rw [if_neg unknown] at reached
        dsimp only
        rw [wp_bind, wp_attempt]
        apply wp_mono (attempts reached)
        · intro outcome last ended
          cases outcome with
          | some committed => exact ih ended
          | none => exact ended
        · intro fault last fallen
          rw [wp_bind]
          exact fallen

end Steps

end Coordinator

end SagaMind
