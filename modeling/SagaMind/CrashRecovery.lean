import SagaMind.Coordinator.Walk

/-!
# Interrupted effects reach recovery or an operator

`recover` undoes the sagas that `list_incomplete` reports and that do not await
approval. A record in flight is started, or in the middle of its compensation.
Between two calls every saga with a record in flight has a dead letter. A crash
may leave more, and `recover` gets to it as long as the saga is recoverable. A
watch over the store calls notes which saga the running call has exposed: from
an `EXECUTING` mark to the write that settles it, and from a
`COMPENSATION_FAILED` status to the dead letter that follows it.
-/

namespace SagaMind.CrashRecovery

open CallProgram KeyedTable Coordinator Walk

set_option autoImplicit false

variable {Args : Type}

def inFlight : EffectState → Bool
  | .executing | .ambiguous | .applied | .compensating => true
  | _ => false

def InFlight (store : Store Args) (sagaId stepId : String) : Prop :=
  ∃ effect, store.effect? sagaId stepId = some effect ∧ inFlight effect.state = true

def Resumable (store : Store Args) (sagaId : String) : Prop :=
  ∀ stepId, InFlight store sagaId stepId → Recoverable store sagaId ∨ Reported store sagaId

def AccountedExcept (exempt : String → Prop) (store : Store Args) (sagaId : String) : Prop :=
  ∀ stepId, InFlight store sagaId stepId → Reported store sagaId ∨ exempt stepId

abbrev Accounted (store : Store Args) (sagaId : String) : Prop :=
  AccountedExcept (fun _ => False) store sagaId

def watch : (request : StoreCall Args) → Except PyError request.Answer → Option String →
    Option String
  | .transitionEffect sagaId _ _ .executing _ _, .ok _, _ => some sagaId
  | .transitionEffect _ _ _ .aborted _ _, .ok _, _ => none
  | .commitEffect .., .ok _, _ => none
  | .writeTransactionState sagaId .compensationFailed _, _, _ => some sagaId
  | .pushDeadLetter .., _, _ => none
  | _, _, exposed => exposed

def anything : Outside Args (Option String) where
  respond := fun _ before _ after => after = before
  observe := watch

/-- A crash does not strike while the exposed saga has a record in flight that
neither recovery nor an operator would see. -/
def CrashSafe (state : System Args (Option String)) : Prop :=
  ∀ sagaId, state.world = some sagaId → Resumable state.store sagaId

def CutSafe (sagaId : String) (state : System Args (Option String)) : Prop :=
  state.world ≠ some sagaId → Resumable state.store sagaId

section StoreFacts

variable {store : Store Args} {sagaId : String} {exempt wider : String → Prop}

theorem Accounted.resumable (accounted : Accounted store sagaId) : Resumable store sagaId := by
  intro stepId flying
  rcases accounted stepId flying with reported | impossible
  · exact .inr reported
  · exact impossible.elim

theorem accounted_of_reported (reported : Reported store sagaId) :
    AccountedExcept exempt store sagaId :=
  fun _ _ => .inl reported

theorem AccountedExcept.mono (accounted : AccountedExcept exempt store sagaId)
    (implies : ∀ stepId, exempt stepId → wider stepId) : AccountedExcept wider store sagaId := by
  intro stepId flying
  exact (accounted stepId flying).imp_right (implies stepId)

theorem in_flight_put (effect : Effect Args) (stepId : String) :
    InFlight (store.putEffect sagaId effect) sagaId stepId ↔
      if effect.stepId = stepId then inFlight effect.state = true
      else InFlight store sagaId stepId := by
  unfold InFlight
  by_cases same : effect.stepId = stepId
  · simp [same]
  · simp [same]

theorem AccountedExcept.put (accounted : AccountedExcept exempt store sagaId)
    (effect : Effect Args)
    (settled : inFlight effect.state = true → Reported store sagaId ∨ wider effect.stepId)
    (implies : ∀ stepId, stepId ≠ effect.stepId → exempt stepId → wider stepId) :
    AccountedExcept wider (store.putEffect sagaId effect) sagaId := by
  intro stepId flying
  rw [in_flight_put] at flying
  by_cases same : effect.stepId = stepId
  · rw [if_pos same] at flying
    subst same
    exact settled flying
  · rw [if_neg same] at flying
    exact (accounted stepId flying).imp_right (implies stepId (Ne.symm same))

theorem AccountedExcept.put_flying (accounted : AccountedExcept exempt store sagaId)
    (effect : Effect Args) (flying : InFlight store sagaId effect.stepId) :
    AccountedExcept exempt (store.putEffect sagaId effect) sagaId :=
  accounted.put effect (fun _ => accounted _ flying) fun _ _ spared => spared

theorem AccountedExcept.put_settled (accounted : AccountedExcept exempt store sagaId)
    (effect : Effect Args) (settled : inFlight effect.state = false)
    (implies : ∀ stepId, stepId ≠ effect.stepId → exempt stepId → wider stepId) :
    AccountedExcept wider (store.putEffect sagaId effect) sagaId :=
  accounted.put effect (fun flying => by simp [settled] at flying) implies

theorem recoverable_write {status : SagaStatus} {metadata : Metadata Args}
    (alive : status.terminal = false) (working : status ≠ .awaitingApproval) :
    Recoverable (store.writeTransactionState sagaId status metadata) sagaId := by
  refine ⟨_, by rw [Store.find_write_state, if_pos rfl], alive, ?_⟩
  simp [awaitsApproval, working]

end StoreFacts

section Rollback

variable [DecidableEq Args] {sagaId : String} {exempt extra : String → Prop}

/-- The deployment as one call on `sagaId` sees it. -/
abbrev watched (sagaId : String) : Machine (coordinatorFace Args) (System Args (Option String)) :=
  machine anything (CutSafe sagaId)

def Kept (sagaId : String) (exempt : String → Prop) (state : System Args (Option String)) : Prop :=
  AccountedExcept (fun stepId => exempt stepId ∧ state.world = some sagaId) state.store sagaId

/-- During a rollback the saga is recoverable, and `extra` is being compensated. -/
structure Rolling (sagaId : String) (exempt extra : String → Prop)
    (state : System Args (Option String)) : Prop where
  accounted : AccountedExcept
    (fun stepId => exempt stepId ∧ state.world = some sagaId ∨ extra stepId) state.store sagaId
  alive : Recoverable state.store sagaId

abbrev nothing : String → Prop := fun _ => False

omit [DecidableEq Args] in
theorem Kept.cut {state : System Args (Option String)} (kept : Kept sagaId exempt state) :
    CutSafe sagaId state := by
  intro closed
  apply Accounted.resumable
  exact kept.mono fun _ spared => closed spared.2

omit [DecidableEq Args] in
theorem Rolling.cut {state : System Args (Option String)}
    (rolling : Rolling sagaId exempt extra state) : CutSafe sagaId state :=
  fun _ _ _ => .inl rolling.alive

theorem wp_unattended {request : OutsideCall Args}
    {post : request.Answer → System Args (Option String) → Prop}
    {failed : PyError → System Args (Option String) → Prop} {state : System Args (Option String)}
    (here : CutSafe sagaId state) (answered : ∀ answer, post answer state)
    (raised : ∀ error, failed error state) :
    wp (watched sagaId) (onOutside request) post failed state := by
  apply wp_outside here
  · rintro answer world rfl
    exact answered answer
  · rintro error world rfl
    exact raised error

theorem wp_dead_letter_recovery {stepName error : String}
    {post : Unit → System Args (Option String) → Prop}
    {failed : PyError → System Args (Option String) → Prop} {state : System Args (Option String)}
    (here : CutSafe sagaId state)
    (reported : ∀ after, Lettered after.store sagaId → post () after) :
    wp (watched sagaId) (deadLetterRecovery sagaId stepName error) post failed state := by
  unfold deadLetterRecovery
  rw [wp_bind]
  apply wp_write_state here
  apply wp_push_dead_letter
  · exact fun closed => absurd rfl closed
  · apply reported
    exact ⟨reported_push _ _, by simp [Store.status?, Store.find_write_state]⟩

variable {self : Coordinator}

/-- The alert is still owed when the failed compensation is on record. -/
theorem wp_record_compensation_failure (journaled : self.store = .journaled)
    {stepId error : String} {post : Unit → System Args (Option String) → Prop}
    {failed : PyError → System Args (Option String) → Prop} {state : System Args (Option String)}
    (owed : state.world = some sagaId)
    (done : ∀ after : System Args (Option String), after.world = some sagaId → post () after) :
    wp (watched sagaId) (self.recordCompensationFailure sagaId stepId error) post failed state := by
  have here : CutSafe sagaId state := fun closed => absurd owed closed
  unfold recordCompensationFailure
  rw [if_pos (journals_of_journaled journaled), wp_attempt, wp_bind]
  apply wp_get_effect here
  · intro effect found
    rw [wp_ite]
    split
    · rw [wp_bind]
      apply wp_transition here
      · exact fun entry found legal => done _ owed
      · exact fun refusal illegal => done _ owed
    · exact done _ owed
  · exact fun error unknown => done _ owed

theorem wp_handle_compensation_failure (journaled : self.store = .journaled)
    {step : SagaStep Args} {error : String}
    {post : Unit → System Args (Option String) → Prop}
    {failed : PyError → System Args (Option String) → Prop} {state : System Args (Option String)}
    (here : CutSafe sagaId state)
    (reported : ∀ after, Reported after.store sagaId → post () after) :
    wp (watched sagaId) (self.handleCompensationFailure sagaId step error) post failed state := by
  unfold handleCompensationFailure
  rw [wp_bind, wp_on_memory, if_pos (has_store_of_journaled journaled)]
  refine ⟨here, ?_⟩
  rw [wp_bind]
  apply wp_write_state
  · exact here
  · rw [wp_bind]
    apply wp_record_compensation_failure journaled rfl
    intro after owed
    apply wp_push_dead_letter
    · exact fun closed => absurd owed closed
    · exact reported _ (reported_push _ _)

theorem wp_mark_compensating (journaled : self.store = .journaled) {stepId : String}
    {post : Unit → System Args (Option String) → Prop}
    {failed : PyError → System Args (Option String) → Prop} {state : System Args (Option String)}
    (rolling : Rolling sagaId exempt nothing state)
    (marked : ∀ after, Rolling sagaId exempt (· = stepId) after → post () after)
    (refused : ∀ error after, Rolling sagaId exempt (· = stepId) after → failed error after) :
    wp (watched sagaId) (self.markCompensating sagaId stepId) post failed state := by
  have wide : Rolling sagaId exempt (· = stepId) state :=
    ⟨rolling.accounted.mono fun _ spared => spared.imp_right False.elim, rolling.alive⟩
  unfold markCompensating
  rw [if_pos (journals_of_journaled journaled), wp_bind]
  apply wp_get_effect rolling.cut
  · intro effect found
    rw [wp_ite]
    split
    · rw [wp_bind]
      apply wp_transition rolling.cut
      · intro entry present legal
        have same : entry.stepId = stepId := Table.find_key present
        apply marked
        refine ⟨?_, rolling.alive⟩
        apply wide.accounted.put
        · exact fun _ => .inr (.inr same)
        · exact fun _ _ spared => spared
      · exact fun refusal illegal => refused _ _ wide
    · rw [wp_ite]
      split
      · exact marked _ wide
      · exact refused _ _ wide
  · exact fun error unknown => refused _ _ wide

theorem wp_mark_compensated (journaled : self.store = .journaled) {stepId : String}
    {post : Unit → System Args (Option String) → Prop}
    {failed : PyError → System Args (Option String) → Prop} {state : System Args (Option String)}
    (rolling : Rolling sagaId exempt (· = stepId) state)
    (marked : ∀ after, Rolling sagaId exempt nothing after → post () after)
    (refused : ∀ error after, Rolling sagaId exempt (· = stepId) after → failed error after) :
    wp (watched sagaId) (self.markCompensated sagaId stepId) post failed state := by
  unfold markCompensated
  rw [if_pos (journals_of_journaled journaled), wp_bind]
  apply wp_transition rolling.cut
  · intro entry present legal
    have same : entry.stepId = stepId := Table.find_key present
    apply marked
    refine ⟨?_, rolling.alive⟩
    apply rolling.accounted.put_settled
    · rfl
    · intro other different spared
      exact .inl (spared.resolve_right fun equal => different (equal.trans same.symm))
  · exact fun refusal illegal => refused _ _ rolling

theorem wp_compensate_step (journaled : self.store = .journaled) {step : SagaStep Args}
    {post : Bool → System Args (Option String) → Prop}
    {failed : PyError → System Args (Option String) → Prop} {state : System Args (Option String)}
    (rolling : Rolling sagaId exempt nothing state)
    (compensated : ∀ after, Rolling sagaId exempt nothing after → post true after)
    (reported : ∀ after, Reported after.store sagaId → post false after)
    (raised : ∀ error after, CutSafe sagaId after → failed error after) :
    wp (watched sagaId) (self.compensateStep sagaId step) post failed state := by
  unfold compensateStep
  rw [wp_bind]
  apply wp_mark_compensating journaled rolling
  · intro marked rolling
    rw [wp_bind]
    apply wp_unattended rolling.cut
    · intro succeeded
      rw [wp_ite]
      split
      · rw [wp_bind]
        apply wp_mark_compensated journaled rolling
        · exact compensated
        · exact fun error after rolling => raised error after rolling.cut
      · rw [wp_bind]
        exact wp_handle_compensation_failure journaled rolling.cut reported
    · exact fun error => raised error _ rolling.cut
  · exact fun error after rolling => raised error after rolling.cut

theorem wp_rollback (journaled : self.store = .journaled) (steps : List (SagaStep Args))
    {post : Unit → System Args (Option String) → Prop}
    {failed : PyError → System Args (Option String) → Prop} {state : System Args (Option String)}
    (rolling : Rolling sagaId exempt nothing state)
    (done : ∀ after, Kept sagaId exempt after → post () after) :
    wp (watched sagaId) (self.rollback sagaId steps) post failed state := by
  apply rollback_rule fun _ => Rolling sagaId exempt nothing
  case closes =>
    intro between rolling
    unfold closeRollback
    rw [wp_bind, wp_on_memory, write_status_journaled journaled]
    refine ⟨rolling.cut, ?_⟩
    apply wp_write_state
    · exact rolling.cut
    · apply done
      exact rolling.accounted.mono fun _ spared => spared.resolve_right id
  case undoes =>
    intro step rest between rolling
    unfold undoStep
    rw [wp_attempt]
    apply wp_compensate_step journaled rolling
    · exact fun after rolling => rolling
    · exact fun after reported => done _ (accounted_of_reported reported)
    · intro error after here
      rw [wp_bind]
      apply wp_handle_compensation_failure journaled here
      exact fun last reported => done _ (accounted_of_reported reported)
  case here => exact rolling

theorem wp_execute_compensations (journaled : self.store = .journaled)
    {post : Unit → System Args (Option String) → Prop}
    {failed : PyError → System Args (Option String) → Prop} {state : System Args (Option String)}
    (kept : Kept sagaId exempt state)
    (done : ∀ after, Kept sagaId exempt after → post () after) :
    wp (watched sagaId) (self.executeCompensations sagaId (completedSteps sagaId)) post failed
      state := by
  apply execute_compensations_rule (Rolling sagaId exempt nothing)
  · rw [write_status_journaled journaled]
    apply wp_write_state kept.cut
    exact ⟨AccountedExcept.mono kept fun _ spared => .inl spared,
      recoverable_write rfl (by decide)⟩
  · intro between rolling
    apply wp_memory rolling.cut
    apply wp_rollback journaled _ _ done
    exact ⟨rolling.accounted, rolling.alive⟩

end Rollback

section Forward

variable [DecidableEq Args] {sagaId : String} {self : Coordinator} {step : SagaStep Args}

/-- Nothing of the saga is exempt: the point between two steps. -/
abbrev Steady (sagaId : String) (state : System Args (Option String)) : Prop :=
  Kept sagaId nothing state

/-- The step's record is started and exposed. -/
structure Started (sagaId stepId : String) (state : System Args (Option String)) : Prop where
  kept : Kept sagaId (· = stepId) state
  exposed : state.world = some sagaId

omit [DecidableEq Args] in
theorem steady_iff {state : System Args (Option String)} :
    Steady sagaId state ↔ Accounted state.store sagaId :=
  ⟨fun steady => AccountedExcept.mono steady fun _ spared => spared.1,
    fun accounted => AccountedExcept.mono accounted fun _ spared => spared.elim⟩

def quarantined (step : SagaStep Args) (fault : StepFault) (stepId : String) : Prop :=
  (fault.executionAmbiguous = true ∧ fault.journaled = true) ∧ stepId = step.stepId

theorem wp_mark_executing (journaled : self.store = .journaled)
    {post : Unit → System Args (Option String) → Prop}
    {failed : StepFault → System Args (Option String) → Prop}
    {state : System Args (Option String)} (steady : Steady sagaId state)
    (started : ∀ after entry, Started sagaId step.stepId after →
      after.store.effect? sagaId step.stepId = some entry → entry.state = .executing →
      post () after)
    (refused : ∀ fault after, Steady sagaId after → failed fault after) :
    wp (watched sagaId) (self.markExecuting sagaId step) post failed state := by
  unfold markExecuting
  rw [if_pos (journals_of_journaled journaled), wp_bind, wp_flagged]
  have start : ∀ (prepared : Effect Args) (before : System Args (Option String)),
      Steady sagaId before → wp (watched sagaId)
        (do let _ ← flagged true false (onStore (.transitionEffect sagaId step.stepId [.prepared]
              .executing none none))
            pure ()) post failed before := by
    intro prepared before steady
    rw [wp_bind, wp_flagged]
    apply wp_transition steady.cut
    · intro entry present legal
      have same : entry.stepId = step.stepId := Table.find_key present
      apply started _ { entry with state := .executing, result := none, error := none }
      · refine ⟨?_, rfl⟩
        apply AccountedExcept.put steady
        · exact fun _ => .inr ⟨same, rfl⟩
        · exact fun _ _ spared => spared.1.elim
      · simp [same]
      · rfl
    · exact fun refusal illegal => refused _ _ steady
  apply wp_prepare steady.cut
  · exact fun existing known agrees => start existing _ steady
  · intro entry absent shape
    apply start entry
    apply AccountedExcept.put_settled steady
    · rw [shape]
      rfl
    · exact fun _ _ spared => spared
  · exact fun refusal => refused _ _ steady

theorem wp_publish_step (journaled : self.store = .journaled)
    {post : Unit → System Args (Option String) → Prop}
    {failed : StepFault → System Args (Option String) → Prop}
    {state : System Args (Option String)} (started : Started sagaId step.stepId state)
    {record : Effect Args} (found : state.store.effect? sagaId step.stepId = some record)
    (applied : record.state = .applied)
    (published : ∀ after, Steady sagaId after → post () after) :
    wp (watched sagaId) (self.publishStep sagaId step) post failed state := by
  unfold publishStep
  rw [if_pos (journals_of_journaled journaled), wp_bind, wp_flagged]
  apply wp_commit started.kept.cut
  · intro entry present legal
    have same : entry.stepId = step.stepId := Table.find_key present
    apply published
    rw [steady_iff]
    have settled : Accounted (state.store.putEffect sagaId { entry with state := .committed })
        sagaId := by
      apply AccountedExcept.put_settled started.kept
      · rfl
      · exact fun other different spared => different (spared.1.trans same.symm)
    intro stepId flying
    simpa [InFlight, Reported] using settled stepId (by simpa [InFlight] using flying)
  · exact fun refusal illegal => absurd applied (illegal record found)

variable [Inhabited Args]

theorem wp_mark_applied (journaled : self.store = .journaled) {result : ExecuteResult Args}
    {post : Unit → System Args (Option String) → Prop}
    {failed : StepFault → System Args (Option String) → Prop}
    {state : System Args (Option String)} (started : Started sagaId step.stepId state)
    {record : Effect Args} (found : state.store.effect? sagaId step.stepId = some record)
    (executing : record.state = .executing)
    (applied : ∀ after entry, Started sagaId step.stepId after →
      after.store.effect? sagaId step.stepId = some entry → entry.state = .applied →
      post () after) :
    wp (watched sagaId) (self.markApplied sagaId step result) post failed state := by
  unfold markApplied
  rw [if_pos (journals_of_journaled journaled), wp_bind, wp_flagged]
  apply wp_transition started.kept.cut
  · intro entry present legal
    have same : entry.stepId = step.stepId := Table.find_key present
    apply applied _ { entry with state := .applied, result := some result.resultData, error := none }
    · refine ⟨?_, started.exposed⟩
      apply AccountedExcept.put started.kept
      · exact fun _ => .inr ⟨same, started.exposed⟩
      · exact fun _ _ spared => spared
    · simp [same]
    · rfl
  · intro refusal illegal
    exact absurd executing (by simpa using illegal record found)

theorem wp_commit_step (journaled : self.store = .journaled) {result : ExecuteResult Args}
    {post : SagaStep Args → System Args (Option String) → Prop}
    {failed : StepFault → System Args (Option String) → Prop}
    {state : System Args (Option String)} (started : Started sagaId step.stepId state)
    {record : Effect Args} (found : state.store.effect? sagaId step.stepId = some record)
    (executing : record.state = .executing)
    (committed : ∀ step after, Steady sagaId after → post step after) :
    wp (watched sagaId) (self.commitStep sagaId step result) post failed state := by
  unfold commitStep
  rw [wp_bind]
  apply wp_mark_applied journaled started found executing
  intro after entry started present applied
  rw [wp_bind, wp_flagged, wp_on_memory]
  refine ⟨started.kept.cut, ?_⟩
  rw [wp_bind]
  apply wp_publish_step journaled
  · exact ⟨started.kept, started.exposed⟩
  · exact present
  · exact applied
  · intro last steady
    rw [wp_bind, wp_flagged, record_history_journaled journaled]
    apply wp_record_step steady.cut
    exact committed _ _ steady

/-- A fault of the step leaves at most the record that its handler settles. -/
theorem wp_execute_step (journaled : self.store = .journaled)
    {post : SagaStep Args → System Args (Option String) → Prop}
    {failed : StepFault → System Args (Option String) → Prop}
    {state : System Args (Option String)} (steady : Steady sagaId state)
    (committed : ∀ step after, Steady sagaId after → post step after)
    (raised : ∀ fault after, Kept sagaId (quarantined step fault) after → failed fault after) :
    wp (watched sagaId) (self.executeStep sagaId step) post failed state := by
  have calm : ∀ fault after, Steady sagaId after → failed fault after := fun fault after steady =>
    raised fault after (AccountedExcept.mono steady fun _ spared => spared.1.elim)
  apply execute_step_rule fun after => ∃ record, Started sagaId step.stepId after ∧
    after.store.effect? sagaId step.stepId = some record ∧ record.state = .executing
  · apply wp_mark_executing journaled steady
    · exact fun after record started found executing => ⟨record, started, found, executing⟩
    · exact calm
  · intro after ⟨record, started, found, executing⟩
    apply wp_unattended started.kept.cut
    · intro result
      split
      · exact wp_commit_step journaled started found executing committed
      · unfold abortStep
        rw [if_pos (journals_of_journaled journaled), wp_bind, wp_flagged]
        apply wp_transition started.kept.cut
        · intro entry present legal
          have same : entry.stepId = step.stepId := Table.find_key present
          apply calm
          rw [steady_iff]
          apply AccountedExcept.put_settled started.kept
          · rfl
          · exact fun other different spared => different (spared.1.trans same.symm)
        · intro refusal illegal
          exact absurd executing (by simpa using illegal record found)
    · intro error
      apply raised
      rw [journals_of_journaled journaled]
      exact AccountedExcept.mono started.kept fun _ spared => ⟨⟨⟨rfl, rfl⟩, spared.1⟩, spared.2⟩

omit [Inhabited Args] in
theorem wp_await_approval (journaled : self.store = .journaled) {steps : List (SagaStep Args)}
    {post : Unit → System Args (Option String) → Prop}
    {failed : PyError → System Args (Option String) → Prop} {state : System Args (Option String)}
    (steady : Steady sagaId state) (done : ∀ after, Steady sagaId after → post () after) :
    wp (watched sagaId) (self.awaitApproval sagaId steps step) post failed state := by
  unfold awaitApproval
  rw [wp_bind]
  apply wp_memory steady.cut
  rw [wp_bind]
  apply wp_memory
  · exact steady.cut
  · rw [write_status_journaled journaled]
    apply wp_write_state
    · exact steady.cut
    · exact done _ steady

theorem wp_attempt_step (journaled : self.store = .journaled)
    {before after : List (SagaStep Args)}
    {post : Option (SagaStep Args) → System Args (Option String) → Prop}
    {failed : StepFault → System Args (Option String) → Prop}
    {state : System Args (Option String)} (steady : Steady sagaId state)
    (done : ∀ outcome last, Steady sagaId last → post outcome last)
    (raised : ∀ fault last, Kept sagaId (quarantined step fault) last → failed fault last) :
    wp (watched sagaId) (self.attemptStep sagaId before step after) post failed state := by
  have calm : ∀ fault last, Steady sagaId last → failed fault last := fun fault last steady =>
    raised fault last (AccountedExcept.mono steady fun _ spared => spared.1.elim)
  apply attempt_step_rule (Steady sagaId) (Steady sagaId) (Steady sagaId)
  case verifies =>
    apply wp_unattended steady.cut
    · intro verdict
      split
      · exact steady
      · exact steady
    · exact fun error => calm _ _ steady
  case checks =>
    intro between steady
    unfold preflight
    rw [wp_ite]
    split
    · apply wp_unattended steady.cut
      · exact fun _ => steady
      · exact fun error => calm _ _ steady
    · exact steady
  case waits =>
    exact fun steady _ _ => wp_await_approval journaled steady fun last steady => done _ _ steady
  case executes =>
    intro between steady _
    apply wp_execute_step journaled steady
    · exact fun committed last steady => done _ _ steady
    · exact raised
  case retreats =>
    intro between steady
    apply wp_execute_compensations journaled steady
    exact fun last kept => done _ _ kept

omit [Inhabited Args] in
theorem wp_quarantine_step {post : Unit → System Args (Option String) → Prop}
    {failed : PyError → System Args (Option String) → Prop} {state : System Args (Option String)}
    (kept : Kept sagaId (· = step.stepId) state)
    (reported : ∀ after, Reported after.store sagaId → post () after) :
    wp (watched sagaId) (quarantineStep sagaId step) post failed state := by
  unfold quarantineStep
  rw [wp_bind, wp_attempt, wp_bind]
  apply wp_transition kept.cut
  · intro entry present legal
    have same : entry.stepId = step.stepId := Table.find_key present
    have executing : entry.state = .executing := by simpa using legal
    have flying : InFlight state.store sagaId entry.stepId :=
      ⟨entry, same ▸ present, by rw [executing]; rfl⟩
    apply wp_dead_letter_recovery
    · exact Kept.cut (AccountedExcept.put_flying kept _ flying)
    · exact fun after lettered => reported after lettered.reported
  · intro refusal illegal
    apply wp_dead_letter_recovery
    · exact Kept.cut kept
    · exact fun after lettered => reported after lettered.reported

omit [Inhabited Args] in
theorem wp_fail_step (journaled : self.store = .journaled) {fault : StepFault}
    {post : Unit → System Args (Option String) → Prop}
    {failed : PyError → System Args (Option String) → Prop} {state : System Args (Option String)}
    (kept : Kept sagaId (quarantined step fault) state)
    (done : ∀ after, Steady sagaId after → post () after) :
    wp (watched sagaId) (self.failStep sagaId step fault) post failed state := by
  apply fail_step_rule (Kept sagaId (quarantined step fault))
  case compensates => exact wp_execute_compensations journaled kept fun after kept => kept
  case quarantines =>
    intro between kept _ _
    apply wp_quarantine_step
    · exact AccountedExcept.mono kept fun _ spared => ⟨spared.1.2, spared.2⟩
    · exact fun last reported => done last (accounted_of_reported reported)
  case rests =>
    intro between kept settled
    apply done
    exact AccountedExcept.mono kept fun _ spared => absurd spared.1.1 settled

theorem wp_execute_steps (journaled : self.store = .journaled)
    (before steps : List (SagaStep Args)) {post : Bool → System Args (Option String) → Prop}
    {failed : PyError → System Args (Option String) → Prop} {state : System Args (Option String)}
    (steady : Steady sagaId state)
    (done : ∀ returned after, Steady sagaId after → post returned after) :
    wp (watched sagaId) (self.executeSteps sagaId before steps) post failed state := by
  apply execute_steps_rule (fun _ _ => Steady sagaId) fun _ _ _ => Steady sagaId
  case closes =>
    intro _ between steady
    unfold closeBatch
    rw [wp_bind]
    apply wp_memory steady.cut
    rw [wp_bind, write_status_journaled journaled]
    apply wp_write_state
    · exact steady.cut
    · apply wp_memory
      · exact Kept.cut steady
      · exact done _ _ steady
  case asks =>
    intro _ step rest between steady
    unfold alreadyCommitted
    rw [wp_ite]
    split
    · rw [wp_on_store]
      refine ⟨steady.cut, ?_⟩
      simp only [StoreCall.serve, replied_ok, afterStore]
      split
      · exact steady
      · exact steady
    · exact steady
  case attempts =>
    intro _ step rest between steady
    apply wp_attempt_step journaled steady
    · intro outcome last steady
      cases outcome with
      | none => exact done _ _ steady
      | some committed => exact steady
    · intro fault last kept
      apply wp_fail_step journaled kept
      exact fun final steady => done _ _ steady
  case here => exact steady

theorem wp_execute_saga (journaled : self.store = .journaled) (steps : List (SagaStep Args))
    {post : Bool → System Args (Option String) → Prop}
    {failed : PyError → System Args (Option String) → Prop} {state : System Args (Option String)}
    (steady : Steady sagaId state)
    (done : ∀ returned after, Steady sagaId after → post returned after)
    (raised : ∀ error after, Steady sagaId after → failed error after) :
    wp (watched sagaId) (self.executeSaga sagaId steps) post failed state := by
  unfold executeSaga
  rw [wp_bind]
  apply wp_memory steady.cut
  rw [wp_ite]
  split
  · exact wp_execute_steps journaled _ _ steady done
  · exact raised _ _ steady

/-- Every call but `recover` leaves its saga between two steps. -/
theorem wp_api_call (journaled : self.store = .journaled) {request : ApiCall Args}
    (own : request.sagaId? = some sagaId) {state : System Args (Option String)}
    (steady : Steady sagaId state) :
    wp (watched sagaId) (request.program self) (fun _ after => Steady sagaId after)
      (fun _ after => Steady sagaId after) state := by
  cases request with
  | start owner goal tenantId =>
      obtain rfl := Option.some.inj own
      unfold ApiCall.program startTransactionLog
      rw [wp_bind]
      apply wp_memory steady.cut
      rw [wp_ite]
      split
      · exact steady
      · rw [wp_bind]
        apply wp_memory steady.cut
        rw [write_status_journaled journaled]
        apply wp_write_state
        · exact steady.cut
        · exact steady
  | execute owner steps =>
      obtain rfl := Option.some.inj own
      unfold ApiCall.program
      rw [wp_void]
      exact wp_execute_saga journaled steps steady (fun _ _ steady => steady)
        fun _ _ steady => steady
  | resume owner =>
      obtain rfl := Option.some.inj own
      unfold ApiCall.program resumeAfterApproval
      rw [wp_void, wp_bind]
      apply wp_memory steady.cut
      split
      · exact steady
      · rw [wp_ite]
        split
        · exact steady
        · rw [wp_bind]
          apply wp_memory steady.cut
          rw [wp_bind]
          apply wp_memory
          · exact steady.cut
          · rw [wp_bind, write_status_journaled journaled]
            apply wp_write_state
            · exact steady.cut
            · exact wp_execute_saga journaled _ steady (fun _ _ steady => steady)
                fun _ _ steady => steady
  | reject owner =>
      obtain rfl := Option.some.inj own
      unfold ApiCall.program rejectPending
      rw [wp_void, wp_bind]
      apply wp_memory steady.cut
      split
      · exact steady
      · rw [wp_ite]
        split
        · exact steady
        · rw [wp_bind]
          apply wp_memory steady.cut
          rw [wp_bind, write_status_journaled journaled]
          apply wp_write_state
          · exact steady.cut
          · rw [wp_bind]
            apply wp_execute_compensations journaled
            · exact steady
            · exact fun last kept => kept
  | recover => simp [ApiCall.sagaId?] at own

end Forward

section Recovery

variable [DecidableEq Args] {sagaId : String} {self : Coordinator} {store : Store Args}

omit [DecidableEq Args] in
theorem in_flight_unsettled {state : EffectState} (flies : inFlight state = true) :
    settled state = false := by
  cases state <;> first | rfl | cases flies

omit [DecidableEq Args] in
theorem accounted_of_walking (walking : Walking sagaId [] store) : Accounted store sagaId := by
  rintro stepId ⟨effect, found, flies⟩
  exact absurd (walking.unsettled stepId effect found (in_flight_unsettled flies)) List.not_mem_nil

theorem watched_grounds : @Grounds Args _ _ anything (CutSafe sagaId) sagaId where
  cut := fun walking _ _ _ => .inl walking.alive
  letters := fun here => wp_dead_letter_recovery here fun _ lettered => lettered

theorem wp_recover_saga {saga : IncompleteSaga Args} {state : System Args (Option String)}
    (listed : Listed saga state.store) (resumable : Resumable state.store saga.sagaId) :
    wp (watched saga.sagaId) (self.recoverSaga saga)
      (fun _ after => Accounted after.store saga.sagaId) (fun _ _ => False) state := by
  have here : CutSafe saga.sagaId state := fun _ => resumable
  unfold recoverSaga
  rw [wp_ite]
  split
  · rename_i awaiting
    rw [wp_bind]
    apply wp_memory here
    intro stepId flying
    rcases resumable stepId flying with ⟨row, found, _, working⟩ | reported
    · obtain ⟨same, present, status, metadata⟩ := listed.row
      rw [found] at present
      cases present
      rw [status, metadata, awaiting] at working
      cases working
    · exact .inl reported
  · rename_i working
    have walking := listed.walking (by simpa using working)
    rw [wp_ite]
    split
    · rw [wp_bind]
      apply wp_recover_effects watched_grounds _ walking
      constructor
      · intro after walking
        have accounted := accounted_of_walking walking
        rw [wp_ite, if_pos rfl, wp_bind]
        apply wp_write_state
        · exact watched_grounds.cut walking
        · exact accounted
      · exact fun after lettered => accounted_of_reported lettered.reported
    · rename_i bare
      have grounded : ∀ stepId, ¬InFlight state.store saga.sagaId stepId := by
        rintro stepId ⟨effect, found, flies⟩
        have member := walking.unsettled stepId effect found (in_flight_unsettled flies)
        rw [not_not.mp bare] at member
        exact List.not_mem_nil member
      rw [wp_bind]
      apply wp_replay_compensations _ fun world _ => resumable
      intro outcome world
      cases outcome with
      | some error =>
          rw [wp_bind]
          apply wp_write_state (fun _ => resumable)
          rw [wp_bind]
          apply wp_push_dead_letter
          · exact fun closed => absurd rfl closed
          · exact accounted_of_reported (reported_push _ _)
      | none =>
          rw [wp_bind]
          apply wp_write_state (fun _ => resumable)
          exact fun stepId flying => absurd flying (grounded stepId)

end Recovery

section Sweep

variable [DecidableEq Args] {self : Coordinator} {sagaId other : String} {before after : Store Args}

omit [DecidableEq Args] in
theorem untouched_in_flight (untouched : Untouched sagaId before after) (apart : other ≠ sagaId)
    (stepId : String) : InFlight after other stepId ↔ InFlight before other stepId := by
  unfold InFlight Store.effect?
  rw [untouched.journal other apart]

omit [DecidableEq Args] in
theorem untouched_reported (untouched : Untouched sagaId before after)
    (reported : Reported before other) : Reported after other := by
  obtain ⟨letter, member, same⟩ := reported
  exact ⟨letter, untouched.letters letter member, same⟩

omit [DecidableEq Args] in
theorem untouched_accounted (untouched : Untouched sagaId before after) (apart : other ≠ sagaId)
    (accounted : Accounted before other) : Accounted after other := by
  intro stepId flying
  rw [untouched_in_flight untouched apart] at flying
  exact (accounted stepId flying).imp_left (untouched_reported untouched)

omit [DecidableEq Args] in
theorem untouched_resumable (untouched : Untouched sagaId before after) (apart : other ≠ sagaId)
    (resumable : Resumable before other) : Resumable after other := by
  intro stepId flying
  rw [untouched_in_flight untouched apart] at flying
  rcases resumable stepId flying with alive | reported
  · left
    unfold Recoverable
    rwa [untouched.row other apart]
  · exact .inr (untouched_reported untouched reported)

omit [DecidableEq Args] in
/-- A saga that the snapshot does not have is out of reach of recovery. -/
theorem list_incomplete_complete {store : Store Args} (resumable : Resumable store sagaId)
    (absent : sagaId ∉ store.listIncomplete.map (·.sagaId)) : Accounted store sagaId := by
  intro stepId flying
  rcases resumable stepId flying with ⟨row, found, alive, _⟩ | reported
  · exact absurd (listed_iff.mpr ⟨row, found, alive⟩) absent
  · exact .inl reported

omit [DecidableEq Args] in
theorem accounts_sweepable : Sweepable (fun sagaId store => Resumable store sagaId)
    (fun sagaId (store : Store Args) => Accounted store sagaId) where
  weaken := Accounted.resumable
  pending := untouched_resumable
  through := untouched_accounted

/-- The deployment as `recover` sees it: a crash may expose any saga. -/
abbrev watchedAll : Machine (coordinatorFace Args) (System Args (Option String)) :=
  machine anything fun state => ∀ sagaId, CutSafe sagaId state

theorem recover_accounts (journaled : self.store = .journaled) {store : Store Args}
    {memory : Memory Args} (resumable : ∀ sagaId, Resumable store sagaId) :
    wp watchedAll self.recover (fun _ after => ∀ sagaId, Accounted after.store sagaId)
      (fun _ _ => False) ⟨store, memory, none⟩ := by
  apply wp_recover (has_store_of_journaled journaled) accounts_sweepable
  · exact fun resumable _ => resumable
  · exact fun listed resumable => wp_recover_saga listed resumable
  · exact resumable
  · exact fun sagaId absent => list_incomplete_complete (resumable sagaId) absent

end Sweep

section Deployment

variable [DecidableEq Args] [Inhabited Args]

inductive Phase where
  | serving
  | down

/-- The states of a deployment over one store. While it serves, calls run one
after another, each on a coordinator with whatever memory it has. A crash may
strike anywhere in a call that is `safe` to cut; it leaves the store alone.
Then `recover` runs on a fresh coordinator until a run of it completes. -/
inductive Deployed (safe : System Args (Option String) → Prop) :
    Phase → System Args (Option String) → Prop
  | fresh (memory : Memory Args) : Deployed safe .serving ⟨.empty, memory, none⟩
  | served {self : Coordinator} {request : ApiCall Args}
      {before after : System Args (Option String)} {outcome : Except PyError Unit}
      (memory : Memory Args) (journaled : self.store = .journaled)
      (earlier : Deployed safe .serving before)
      (run : Steps (machine anything fun _ => True) (request.program self)
        ⟨before.store, memory, none⟩ (Program.ended outcome) after) : Deployed safe .serving after
  | crashed {self : Coordinator} {request : ApiCall Args}
      {before after : System Args (Option String)} {later : Action Args Unit}
      (memory : Memory Args) (journaled : self.store = .journaled)
      (earlier : Deployed safe .serving before)
      (run : Steps (machine anything fun _ => True) (request.program self)
        ⟨before.store, memory, none⟩ later after) (struck : safe after) : Deployed safe .down after
  | crashedAgain {self : Coordinator} {before after : System Args (Option String)}
      {later : Action Args Nat} (journaled : self.store = .journaled)
      (earlier : Deployed safe .down before)
      (run : Steps (machine anything fun _ => True) self.recover ⟨before.store, .empty, none⟩
        later after) (struck : safe after) : Deployed safe .down after
  | recovered {self : Coordinator} {before after : System Args (Option String)}
      {outcome : Except PyError Nat} (journaled : self.store = .journaled)
      (earlier : Deployed safe .down before)
      (run : Steps (machine anything fun _ => True) self.recover ⟨before.store, .empty, none⟩
        (Program.ended outcome) after) : Deployed safe .serving after

def Expected : Phase → Store Args → Prop
  | .serving, store => ∀ sagaId, Accounted store sagaId
  | .down, store => ∀ sagaId, Resumable store sagaId

variable {self : Coordinator} {request : ApiCall Args} {memory : Memory Args}
  {store : Store Args} {after : System Args (Option String)}

theorem call_keeps_accounted (journaled : self.store = .journaled)
    (accounted : ∀ sagaId, Accounted store sagaId) :
    wp watchedAll (request.program self) (fun _ after => ∀ sagaId, Accounted after.store sagaId)
      (fun _ after => ∀ sagaId, Accounted after.store sagaId) ⟨store, memory, none⟩ := by
  cases owner : request.sagaId? with
  | none =>
      cases request with
      | recover =>
          unfold ApiCall.program
          rw [wp_void]
          apply wp_mono (recover_accounts journaled fun sagaId => (accounted sagaId).resumable)
          · exact fun _ _ ends => ends
          · exact fun _ _ ends => ends.elim
      | start | execute | resume | reject => cases owner
  | some sagaId =>
      have steady : Steady sagaId (⟨store, memory, none⟩ : System Args (Option String)) :=
        steady_iff.mpr (accounted sagaId)
      have own := wp_untouched (request.confined_program self owner)
        (wp_api_call journaled owner steady)
      have everywhere : wp watchedAll _ _ _ _ := wp_guard_mono (fun _ after here other => by
        by_cases same : other = sagaId
        · exact same ▸ here.1
        · exact fun _ => untouched_resumable here.2 same (accounted other).resumable) own
      have ends : ∀ last : System Args (Option String), Steady sagaId last →
          Untouched sagaId store last.store → ∀ other, Accounted last.store other := by
        intro last steady untouched other
        by_cases same : other = sagaId
        · exact same ▸ steady_iff.mp steady
        · exact untouched_accounted untouched same (accounted other)
      apply wp_mono everywhere
      · exact fun _ last reached => ends last reached.1 reached.2
      · exact fun _ last reached => ends last reached.1 reached.2

omit [Inhabited Args] in
/-- A cut of a run leaves every saga in reach of recovery, if it is safe. -/
theorem cut_resumable {Value : Type} {program later : Action Args Value}
    {post : Value → System Args (Option String) → Prop}
    {failed : PyError → System Args (Option String) → Prop} {state : System Args (Option String)}
    (spec : wp watchedAll program post failed state)
    (values : ∀ value last, post value last → ∀ sagaId, Accounted last.store sagaId)
    (errors : ∀ error last, failed error last → ∀ sagaId, Accounted last.store sagaId)
    (run : Steps watchedAll program state later after)
    (struck : CrashSafe after) : ∀ sagaId, Resumable after.store sagaId := by
  have cut : ∀ sagaId, CutSafe sagaId after := by
    apply wp_cut spec _ _ _ run
    · exact fun request before here => here
    · exact fun value last reached sagaId _ => (values value last reached sagaId).resumable
    · exact fun error last reached sagaId _ => (errors error last reached sagaId).resumable
  intro sagaId
  by_cases exposed : after.world = some sagaId
  · exact struck sagaId exposed
  · exact cut sagaId exposed

theorem deployed_expected {phase : Phase} {state : System Args (Option String)}
    (deployed : Deployed CrashSafe phase state) : Expected phase state.store := by
  induction deployed with
  | fresh memory =>
      rintro sagaId stepId ⟨effect, found, _⟩
      simp [Store.empty, Store.effect?] at found
  | served memory journaled earlier run ih =>
      have ends := wp_ended (call_keeps_accounted journaled ih) (run.guard _)
      rename_i outcome
      cases outcome <;> exact ends
  | crashed memory journaled earlier run struck ih =>
      exact cut_resumable (call_keeps_accounted journaled ih) (fun _ _ ends => ends)
        (fun _ _ ends => ends) (run.guard _) struck
  | crashedAgain journaled earlier run struck ih =>
      exact cut_resumable (recover_accounts journaled ih) (fun _ _ ends => ends)
        (fun _ _ ends => ends.elim) (run.guard _) struck
  | recovered journaled earlier run ih =>
      have ends := wp_ended (recover_accounts journaled ih) (run.guard _)
      rename_i outcome
      cases outcome with
      | ok count => exact ends
      | error error => exact ends.elim

/-- Whenever the deployment serves, every record in flight belongs to a saga
with a dead letter, provided no crash struck where it was not safe. -/
theorem interrupted_effects_reported {state : System Args (Option String)}
    (deployed : Deployed CrashSafe .serving state) {sagaId stepId : String}
    (flying : InFlight state.store sagaId stepId) : Reported state.store sagaId := by
  rcases deployed_expected deployed sagaId stepId flying with reported | impossible
  · exact reported
  · exact impossible.elim

end Deployment

section Runs

def undecided : (request : OutsideCall Unit) → request.Answer
  | .verify .. => (true, "")
  | .validate _ => ()
  | .execute .. => .dict ()
  | .executeCompensation .. => true
  | .resolveEffect _ => .other "UNKNOWN"
  | .resolveCompensation _ => .other "UNKNOWN"
  | .executeIdempotent .. => .dict ()

/-- The program and the state after at most `count` calls. -/
def driven {Value : Type} (count : Nat) (program : Action Unit Value)
    (store : Store Unit) (memory : Memory Unit) :
    Action Unit Value × System Unit (Option String) :=
  simulate (answerWith anything fun request exposed => (.ok (undecided request), exposed)) count
    program ⟨store, memory, none⟩

theorem driven_steps {Value : Type} (count : Nat) (program : Action Unit Value)
    (store : Store Unit) (memory : Memory Unit) :
    Steps (machine anything fun _ => True) program ⟨store, memory, none⟩
      (driven count program store memory).1 (driven count program store memory).2 :=
  simulate_steps (answer_with_honest fun _ _ => rfl) count program _

def worker : Coordinator where
  store := .journaled

def oneStep (stepId : String) : SagaStep Unit where
  stepId := stepId
  stepName := stepId
  action := ⟨"pay", ()⟩
  compensation := ⟨"refund", ()⟩
  invariants := ""

def started : System Unit (Option String) :=
  (driven 9 (worker.startTransactionLog "s" "goal" "tenant") .empty .empty).2

theorem started_deployed (safe : System Unit (Option String) → Prop) :
    Deployed safe .serving started := by
  have run := driven_steps 9 (worker.startTransactionLog "s" "goal" "tenant") .empty .empty
  exact @Deployed.served Unit _ _ safe worker (.start "s" "goal" "tenant") _ _ (.ok ()) .empty rfl
    (.fresh .empty) run

/-- The first batch, cut after its `EXECUTING` mark. -/
def firstCrash : System Unit (Option String) :=
  (driven 5 (worker.executeSaga "s" [oneStep "a"]).void started.store started.memory).2

def firstRecovery : System Unit (Option String) :=
  (driven 20 worker.recover firstCrash.store .empty).2

theorem interrupted_first_step_reported : Reported firstRecovery.store "s" := by
  have cut := driven_steps 5 (worker.executeSaga "s" [oneStep "a"]).void started.store
    started.memory
  have safe : CrashSafe firstCrash := by
    intro sagaId exposed stepId flying
    obtain rfl : "s" = sagaId := Option.some.inj exposed
    exact .inl ⟨_, rfl, rfl, rfl⟩
  have down := @Deployed.crashed Unit _ _ CrashSafe worker (.execute "s" [oneStep "a"]) _ _ _
    started.memory rfl (started_deployed CrashSafe) cut safe
  have run := driven_steps 20 worker.recover firstCrash.store .empty
  have serving := @Deployed.recovered Unit _ _ CrashSafe worker _ _ (.ok 0) rfl down run
  exact @interrupted_effects_reported Unit _ _ _ serving "s" "a" ⟨_, rfl, rfl⟩

/-- The first batch to its end, and the second cut after its `EXECUTING` mark. -/
def firstBatch : System Unit (Option String) :=
  (driven 40 (worker.executeSaga "s" [oneStep "a"]).void started.store started.memory).2

def secondCrash : System Unit (Option String) :=
  (driven 5 (worker.executeSaga "s" [oneStep "b"]).void firstBatch.store firstBatch.memory).2

def secondRecovery : System Unit (Option String) :=
  (driven 20 worker.recover secondCrash.store .empty).2

/-- A saga that committed a first batch is not incomplete while a second runs. -/
theorem interrupted_second_batch_stranded :
    ¬∀ (state : System Unit (Option String)) (sagaId stepId : String),
      Deployed (fun _ => True) .serving state → InFlight state.store sagaId stepId →
        Reported state.store sagaId := by
  intro claim
  have full := driven_steps 40 (worker.executeSaga "s" [oneStep "a"]).void started.store
    started.memory
  have batch := @Deployed.served Unit _ _ _ worker (.execute "s" [oneStep "a"]) _ _ (.ok ())
    started.memory rfl (started_deployed fun _ => True) full
  have cut := driven_steps 5 (worker.executeSaga "s" [oneStep "b"]).void firstBatch.store
    firstBatch.memory
  have down := @Deployed.crashed Unit _ _ (fun _ => True) worker (.execute "s" [oneStep "b"]) _ _ _
    firstBatch.memory rfl batch cut trivial
  have run := driven_steps 20 worker.recover secondCrash.store .empty
  have serving := @Deployed.recovered Unit _ _ _ worker _ _ (.ok 0) rfl down run
  obtain ⟨letter, member, _⟩ := claim secondRecovery "s" "b" serving ⟨_, rfl, rfl⟩
  have silent : secondRecovery.store.dead = [] := rfl
  rw [silent] at member
  exact List.not_mem_nil member

end Runs

end SagaMind.CrashRecovery
