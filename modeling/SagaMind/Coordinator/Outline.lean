import SagaMind.Coordinator.Clerical

/-!
# Proof outlines of a batch

A batch decides a saga's fate at a few points: where it pauses, commits, enters
a rollback, ends one or fails one, and where it quarantines a step. Everything
in between is clerical work on records. An outline names what holds between two
steps, in a rollback and at the end, and settles each of these points once. The
loops of `execute_saga` and `execute_compensations` then follow for any of them.
-/

namespace SagaMind

open CallProgram KeyedTable Coordinator

set_option autoImplicit false

variable {Args World : Type}

namespace Coordinator

def pauseWith (self : Coordinator) (sagaId : String) (pending : List (SagaStep Args)) :
    Action Args Unit := do
  onMemory (.setStatus sagaId .awaitingApproval)
  onMemory (.setPending sagaId pending)
  self.writeStatus sagaId .awaitingApproval { pendingSteps := some (pending.map serializeStep) }

/-- The steps behind the gate are committed, so the list is cut at the gate. -/
theorem await_approval_pauses [DecidableEq Args] (self : Coordinator) (sagaId : String)
    {before after : List (SagaStep Args)} {waiting : SagaStep Args}
    (behind : ∀ step ∈ before, step.status = .committed)
    (gated : waiting.status = .awaitingApproval) :
    self.awaitApproval sagaId (before ++ waiting :: after) waiting =
      self.pauseWith sagaId (waiting :: after) := by
  have absent : waiting ∉ before := by
    intro member
    have committed := behind waiting member
    rw [gated] at committed
    cases committed
  have position : (before ++ waiting :: after).idxOf waiting = before.length := by
    rw [List.idxOf_append_of_notMem absent, List.idxOf_cons_self, Nat.add_zero]
  have rest : (before ++ waiting :: after).drop before.length = waiting :: after :=
    List.drop_left
  unfold awaitApproval pauseWith
  rw [position, rest]

theorem committed_behind {before : List (SagaStep Args)} {committed : SagaStep Args}
    (behind : ∀ step ∈ before, step.status = .committed) (done : committed.status = .committed) :
    ∀ step ∈ before ++ [committed], step.status = .committed := by
  intro other member
  rcases List.mem_append.mp member with earlier | last
  · exact behind other earlier
  · rw [List.mem_singleton.mp last]
    exact done

theorem unwinds_undo_step (self : Coordinator) {sagaId : String} (step : SagaStep Args) :
    Uses (Unwinds sagaId) (self.undoStep sagaId step) := by
  apply conforms_attempt (self.uses_compensate_step unwinds_undoes step)
  intro error
  exact conforms_bind (self.uses_handle_failure unwinds_undoes step _) fun _ => conforms_pure _

theorem unwinds_close_rollback (self : Coordinator) {sagaId : String} :
    Uses (Unwinds sagaId) (self.closeRollback sagaId : Action Args Unit) := by
  apply conforms_bind unwinds_remember
  intro _
  apply conforms_ite
  · exact unwinds_write (by decide)
  · exact conforms_pure _

end Coordinator

variable {State : Type}

section Pieces

variable {served : Machine (coordinatorFace Args) State} {self : Coordinator} {sagaId : String}
  {inv rolling finished broken : State → Prop} {state : State}

theorem wp_clerical
    (permitted : ∀ request state, Clerical sagaId request → inv state → served.allowed request state)
    (kept : ∀ request before reply after, Clerical sagaId request → inv before →
      served.step request before reply after → inv after)
    {Value : Type} {action : Action Args Value} (uses : Uses (Clerical sagaId) action)
    (here : inv state) : wp served action (fun _ => inv) (fun _ => inv) state := by
  apply wp_mono (wp_maintains permitted kept (uses ()) here)
  · exact fun _ _ reached => reached.2
  · exact fun _ _ reached => reached.2

theorem wp_performs [Inhabited Args] {step : SagaStep Args}
    (permitted : ∀ request state, Performs sagaId step request → inv state →
      served.allowed request state)
    (kept : ∀ request before reply after, Performs sagaId step request → inv before →
      served.step request before reply after → inv after) (here : inv state) :
    wp served (self.executeStep sagaId step)
      (fun committed after => committed.status = .committed ∧ inv after) (fun _ => inv) state := by
  apply wp_mono (wp_maintains permitted kept (self.performs_step step) here)
  · exact fun _ _ reached => reached
  · exact fun _ _ reached => reached.2

theorem wp_record_failure {stepId error : String}
    (permitted : ∀ request state, Clerical sagaId request → inv state → served.allowed request state)
    (kept : ∀ request before reply after, Clerical sagaId request → inv before →
      served.step request before reply after → inv after) (here : inv state) :
    wp served (self.recordCompensationFailure sagaId stepId error) (fun _ => inv)
      (fun _ _ => False) state := by
  apply wp_mono (wp_maintains permitted kept (self.swallows_failure clerical_files stepId error) here)
  · exact fun _ _ reached => reached.2
  · exact fun _ _ reached => reached.1

/-- Where clerical work keeps a rollback going, only a failed compensation ends
it. -/
theorem wp_undo_step {step : SagaStep Args}
    (clerks : ∀ {Value : Type} {action : Action Args Value} {state},
      Uses (Clerical sagaId) action → rolling state →
      wp served action (fun _ => rolling) (fun _ => rolling) state)
    (fails : ∀ {error state}, rolling state →
      wp served (self.handleCompensationFailure sagaId step error) (fun _ => finished)
        (fun _ => broken) state)
    (again : ∀ {state}, broken state → rolling state) (here : rolling state) :
    wp served (self.undoStep sagaId step)
      (fun goOn after => if goOn then rolling after else finished after) (fun _ => broken) state := by
  have stops : ∀ {error : String} {between : State}, rolling between → wp served (do
      self.handleCompensationFailure sagaId step error
      pure false) (fun goOn after => if goOn then rolling after else finished after)
        (fun _ => broken) between := by
    intro error between here
    rw [wp_bind]
    exact wp_mono (fails here) (fun _ _ finished => finished) fun _ _ broken => broken
  have asks : Clerical sagaId
      (.outside (.executeCompensation sagaId (some step.stepId) step.compensation)) := trivial
  unfold undoStep compensateStep
  rw [wp_attempt, wp_bind]
  apply wp_mono (clerks (self.clerical_mark_compensating step.stepId) here)
  · intro _ between here
    rw [wp_bind]
    apply wp_mono (clerks (clerical_outside asks) here)
    · intro succeeded between here
      rw [wp_ite]
      split
      · rw [wp_bind]
        apply wp_mono (clerks (self.clerical_mark_compensated step.stepId) here)
        · exact fun _ _ here => here
        · exact fun _ _ here => stops here
      · rw [wp_bind]
        apply wp_mono (fails here)
        · exact fun _ _ finished => finished
        · exact fun _ _ broken => stops (again broken)
    · exact fun _ _ here => stops here
  · exact fun _ _ here => stops here

end Pieces

/-- What holds on the way through a rollback, and that each piece of it leads
from one point to the next. -/
structure Retreat (served : Machine (coordinatorFace Args) State) (worker : Coordinator)
    (sagaId : String) where
  /-- About to enter a rollback. -/
  falling : State → Prop
  rolling : List (SagaStep Args) → State → Prop
  /-- At the end of a rollback. -/
  undone : State → Prop
  /-- Where a rollback is left by an exception. -/
  broken : State → Prop := fun _ => False
  enters : ∀ {state}, falling state → wp served (do
      worker.writeStatus sagaId .compensating {}
      completedSteps sagaId)
    (fun steps => rolling steps.reverse) (fun _ => broken) state
  undoes : ∀ {step rest state}, rolling (step :: rest) state → wp served (worker.undoStep sagaId step)
    (fun goOn after => if goOn then rolling rest after else undone after) (fun _ => broken) state
  closes : ∀ {state}, rolling [] state →
    wp served (worker.closeRollback sagaId) (fun _ => undone) (fun _ => broken) state

namespace Retreat

variable {served : Machine (coordinatorFace Args) State} {self : Coordinator} {sagaId : String}
  (retreat : Retreat served self sagaId) {state : State}

include retreat

theorem rollback (steps : List (SagaStep Args)) (rolling : retreat.rolling steps state) :
    wp served (self.rollback sagaId steps) (fun _ => retreat.undone) (fun _ => retreat.broken)
      state :=
  rollback_rule retreat.rolling retreat.closes retreat.undoes rolling

theorem execute_compensations (falling : retreat.falling state) :
    wp served (self.executeCompensations sagaId (completedSteps sagaId)) (fun _ => retreat.undone)
      (fun _ => retreat.broken) state := by
  have enters := retreat.enters falling
  rw [wp_bind] at enters
  apply execute_compensations_rule _ enters
  intro between reads
  apply wp_mono reads
  · exact fun steps after rolling => retreat.rollback steps.reverse rolling
  · exact fun _ _ broken => broken

end Retreat

/-- What holds at the turning points of a batch, and that the work between two
of them leads from one to the next. -/
structure Outline [Inhabited Args] (served : Machine (coordinatorFace Args) State)
    (worker : Coordinator) (sagaId : String) extends Retreat served worker sagaId where
  /-- The steps that may be ahead, whatever the status of the first. -/
  queue : List (SagaStep Args) → Prop
  working : State → Prop
  finished : State → Prop
  restatus : ∀ {step rest} status, queue (step :: rest) → queue ({ step with status } :: rest)
  moves : ∀ {step rest}, queue (step :: rest) → queue rest
  falls : ∀ {state}, working state → falling state
  ends : ∀ {state}, working state → finished state
  rests : ∀ {state}, undone state → finished state
  breaks : ∀ {state}, broken state → falling state := by exact fun impossible => impossible.elim
  leaves : ∀ {state}, broken state → finished state := by exact fun impossible => impossible.elim
  asks : ∀ {Value : Type} {action : Action Args Value} {state}, Uses Enquiry action →
    working state → wp served action (fun _ => working) (fun _ => working) state
  executes : ∀ {step rest state}, queue (step :: rest) →
    (step.requiresApproval = true → step.approved = true) → working state →
    wp served (worker.executeStep sagaId step)
      (fun committed after => committed.status = .committed ∧ working after)
      (fun _ => falling) state
  pauses : ∀ {step rest state}, queue (step :: rest) → step.requiresApproval = true →
    step.approved = false → working state →
    wp served (worker.pauseWith sagaId (step :: rest)) (fun _ => finished) (fun _ => working) state
  commits : ∀ {state}, working state →
    wp served (worker.closeBatch sagaId) (fun _ => finished) (fun _ => finished) state
  quarantines : ∀ {step state}, undone state →
    wp served (quarantineStep sagaId step) (fun _ => finished) (fun _ => broken) state

namespace Outline

variable [Inhabited Args] {served : Machine (coordinatorFace Args) State} {self : Coordinator}
  {sagaId : String} (outline : Outline served self sagaId) {state : State}

include outline

theorem fail_step (step : SagaStep Args) (fault : StepFault) (falling : outline.falling state) :
    wp served (self.failStep sagaId step fault) (fun _ => outline.finished)
      (fun _ => outline.broken) state := by
  apply fail_step_rule outline.undone (outline.execute_compensations falling)
  · exact fun undone _ _ => outline.quarantines undone
  · exact fun undone _ => outline.rests undone

variable [DecidableEq Args]

theorem attempt_step {before after : List (SagaStep Args)} {step : SagaStep Args}
    (behind : ∀ other ∈ before, other.status = .committed) (queue : outline.queue (step :: after))
    (working : outline.working state) :
    wp served (self.attemptStep sagaId before step after)
      (fun outcome last => match outcome with
        | some committed => committed.status = .committed ∧ outline.working last
        | none => outline.finished last)
      (fun _ => outline.falling) state := by
  apply attempt_step_rule outline.working outline.working outline.working
  case verifies =>
    apply wp_mono (outline.asks enquiry_verify working)
    · intro verdict between working
      split
      · exact working
      · exact working
    · exact fun _ _ working => outline.falls working
  case checks =>
    intro between working
    apply wp_mono (outline.asks (self.enquiry_preflight step) working)
    · exact fun _ _ working => working
    · exact fun _ _ working => outline.falls working
  case waits =>
    intro between working gated waiting
    rw [self.await_approval_pauses sagaId behind rfl]
    apply wp_mono (outline.pauses (outline.restatus .awaitingApproval queue) gated waiting working)
    · exact fun _ last finished => finished
    · exact fun _ last working => outline.falls working
  case executes => exact fun working passed => outline.executes queue passed working
  case retreats =>
    intro between working
    apply wp_mono (outline.execute_compensations (outline.falls working))
    · exact fun _ last undone => outline.rests undone
    · exact fun _ _ broken => outline.breaks broken

theorem execute_steps (before steps : List (SagaStep Args))
    (behind : ∀ step ∈ before, step.status = .committed)
    (queue : outline.queue steps) (working : outline.working state) :
    wp served (self.executeSteps sagaId before steps) (fun _ => outline.finished)
      (fun _ => outline.finished) state := by
  let ready (before steps : List (SagaStep Args)) (state : State) : Prop :=
    (∀ step ∈ before, step.status = .committed) ∧ outline.queue steps ∧ outline.working state
  apply execute_steps_rule ready fun before step rest => ready before (step :: rest)
  case closes => exact fun here => outline.commits here.2.2
  case asks =>
    intro before step rest state ⟨behind, queue, working⟩
    apply wp_mono (outline.asks (self.enquiry_already_committed sagaId step) working)
    · intro skip between working
      split
      · exact ⟨committed_behind behind rfl, outline.moves queue, working⟩
      · exact ⟨behind, queue, working⟩
    · exact fun _ _ working => outline.ends working
  case attempts =>
    intro before step rest state ⟨behind, queue, working⟩
    apply wp_mono (outline.attempt_step behind (outline.restatus _ queue) working)
    · intro outcome last reached
      cases outcome with
      | some committed => exact ⟨committed_behind behind reached.1, outline.moves queue, reached.2⟩
      | none => exact reached
    · intro fault last falling
      apply wp_mono (outline.fail_step _ fault falling)
      · exact fun _ _ finished => finished
      · exact fun _ _ broken => outline.leaves broken
  case here => exact ⟨behind, queue, working⟩

end Outline

end SagaMind
