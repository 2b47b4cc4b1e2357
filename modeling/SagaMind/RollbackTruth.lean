import SagaMind.Coordinator.Turns
import SagaMind.Coordinator.Walk

/-!
# What ROLLED_BACK says

A rollback compensates the steps that the coordinator remembers and then writes
`ROLLED_BACK`. Where it remembers every record that may stand for an effect,
the status tells the truth: no record of the saga is left but those that never
ran and those that were undone.
-/

namespace SagaMind.RollbackTruth

open CallProgram KeyedTable Coordinator Walk

set_option autoImplicit false

variable {Args : Type}

def quiet : EffectState → Bool
  | .prepared | .aborted | .compensated => true
  | _ => false

/-- States of a record that a rollback has to deal with. A record that is
`EXECUTING` is the one that the running call is about to settle itself. -/
def exposed : EffectState → Bool
  | .applied | .committed | .ambiguous | .compensating | .compensationFailed => true
  | _ => false

def Truthful (store : Store Args) (sagaId : String) : Prop :=
  store.status? sagaId = some .rolledBack →
    ∀ stepId record, store.effect? sagaId stepId = some record → quiet record.state = true

def remembers (state : System Args Unit) (sagaId : String) : Bool :=
  (state.store.effects sagaId).rows.all fun record => !exposed record.state ||
    ((MemoryCall.completedSteps sagaId).serve state.memory).1.any fun step =>
      step.stepId = record.stepId

def startsInformed : Call Args → System Args Unit → Bool
  | .store (.writeTransactionState sagaId .compensating _), state => remembers state sagaId
  | _, _ => true

def Poised (sagaId : String) (exempt : String → Prop) (store : Store Args) : Prop :=
  ∀ stepId record, store.effect? sagaId stepId = some record → record.state = .executing →
    exempt stepId

def Calm (sagaId : String) (before after : Store Args) : Prop :=
  ∀ stepId record, after.effect? sagaId stepId = some record → record.state = .executing →
    before.effect? sagaId stepId = some record

structure Closed (sagaId : String) (store : Store Args) : Prop where
  still : Poised sagaId (fun _ => False) store
  truthful : Truthful store sagaId

section StoreFacts

variable {sagaId : String} {store before after : Store Args} {exempt wider : String → Prop}

theorem Calm.refl (store : Store Args) : Calm sagaId store store := fun _ _ found _ => found

theorem Calm.trans {first second third : Store Args} (left : Calm sagaId first second)
    (right : Calm sagaId second third) : Calm sagaId first third :=
  fun stepId record found executing => left stepId record (right stepId record found executing)
    executing

theorem calm_put {moved : Effect Args} (other : moved.state ≠ .executing) :
    Calm sagaId store (store.putEffect sagaId moved) := by
  intro stepId record found executing
  rw [Store.effect_put_effect] at found
  split at found
  · obtain rfl := Option.some.inj found
    exact absurd executing other
  · exact found

theorem Poised.calm (poised : Poised sagaId exempt before) (calm : Calm sagaId before after) :
    Poised sagaId exempt after :=
  fun stepId record found executing => poised stepId record (calm stepId record found executing)
    executing

theorem Poised.mono (poised : Poised sagaId exempt store)
    (implies : ∀ stepId, exempt stepId → wider stepId) : Poised sagaId wider store :=
  fun stepId record found executing => implies stepId (poised stepId record found executing)

theorem Poised.settle {stepId : String} {moved : Effect Args}
    (poised : Poised sagaId (· = stepId) store) (same : moved.stepId = stepId)
    (other : moved.state ≠ .executing) : Poised sagaId wider (store.putEffect sagaId moved) := by
  intro id record found executing
  rw [Store.effect_put_effect] at found
  split at found
  · obtain rfl := Option.some.inj found
    exact absurd executing other
  · rename_i apart
    apply (apart _).elim
    exact ⟨rfl, same.trans (poised id record found executing).symm⟩

theorem Poised.start {stepId : String} {moved : Effect Args}
    (poised : Poised sagaId (fun _ => False) store) (same : moved.stepId = stepId) :
    Poised sagaId (· = stepId) (store.putEffect sagaId moved) := by
  intro id record found executing
  rw [Store.effect_put_effect] at found
  split at found
  · rename_i both
    exact both.2.symm.trans same
  · exact (poised id record found executing).elim

theorem truthful_of_status {status : SagaStatus} (status' : store.status? sagaId = some status)
    (other : status ≠ .rolledBack) : Truthful store sagaId := by
  intro rolledBack
  rw [status'] at rolledBack
  exact absurd (Option.some.inj rolledBack) other

theorem untouched_closed {other : String} (untouched : Untouched sagaId before after)
    (apart : other ≠ sagaId) (closed : Closed other before) : Closed other after := by
  have sameStatus : after.status? other = before.status? other := by
    unfold Store.status?
    rw [untouched.row other apart]
  have sameRecords : ∀ stepId, after.effect? other stepId = before.effect? other stepId := by
    intro stepId
    unfold Store.effect?
    rw [untouched.journal other apart]
  constructor
  · intro stepId record found executing
    rw [sameRecords] at found
    exact closed.still stepId record found executing
  · intro rolledBack stepId record found
    rw [sameStatus] at rolledBack
    rw [sameRecords] at found
    exact closed.truthful rolledBack stepId record found

end StoreFacts

section Rollback

variable [DecidableEq Args] {sagaId : String} {self : Coordinator} {state : System Args Unit}
  {step : SagaStep Args}

structure Failing (sagaId : String) (before after : Store Args) : Prop where
  status : after.status? sagaId = some .compensationFailed
  calm : Calm sagaId before after

structure Rolled (sagaId : String) (before after : Store Args) : Prop where
  calm : Calm sagaId before after
  ended : after.status? sagaId = some .compensationFailed ∨
    ∀ stepId record, after.effect? sagaId stepId = some record → exposed record.state = false

omit [DecidableEq Args] in
theorem Failing.rolled {before after : Store Args} (failing : Failing sagaId before after) :
    Rolled sagaId before after :=
  ⟨failing.calm, .inl failing.status⟩

structure Undone (sagaId stepId : String) (before after : Store Args) : Prop where
  calm : Calm sagaId before after
  undone : ∀ record, after.effect? sagaId stepId = some record → record.state = .compensated
  others : ∀ id, id ≠ stepId → after.effect? sagaId id = before.effect? sagaId id

theorem fails_compensation (journaled : self.store = .journaled) (error : String) :
    wp running (self.handleCompensationFailure sagaId step error)
      (fun _ after => Failing sagaId state.store after.store) (fun _ _ => False) state := by
  have letter : ∀ between : System Args Unit, Failing sagaId state.store between.store →
      wp running (onStore (.pushDeadLetter sagaId step.stepName error))
        (fun _ after => Failing sagaId state.store after.store) (fun _ _ => False) between := by
    intro between failing
    apply wp_push_dead_letter trivial
    exact ⟨failing.status, failing.calm⟩
  unfold handleCompensationFailure recordCompensationFailure
  rw [wp_bind]
  apply wp_memory trivial
  rw [if_pos (has_store_of_journaled journaled), wp_bind]
  apply wp_write_state trivial
  have written : Failing sagaId state.store
      (state.store.writeTransactionState sagaId .compensationFailed
        { failedStep := some step.stepName }) := by
    constructor
    · rw [Store.status_write_state, if_pos rfl]
    · exact Calm.refl state.store
  rw [wp_bind, if_pos (journals_of_journaled journaled), wp_attempt, wp_bind]
  apply wp_get_effect trivial
  · intro effect found
    rw [wp_ite]
    split
    · rw [wp_bind]
      apply wp_transition trivial
      · intro entry found legal
        apply letter
        constructor
        · exact written.status
        · apply written.calm.trans
          apply calm_put
          exact nofun
      · exact fun refusal illegal => letter _ written
    · exact letter _ written
  · exact fun error missing => letter _ written

theorem compensates_step (journaled : self.store = .journaled) :
    wp running (self.compensateStep sagaId step)
      (fun goOn after => if goOn then Undone sagaId step.stepId state.store after.store
        else Failing sagaId state.store after.store)
      (fun _ after => Calm sagaId state.store after.store) state := by
  have call : ∀ between : System Args Unit, Calm sagaId state.store between.store →
      (∀ id, id ≠ step.stepId →
        between.store.effect? sagaId id = state.store.effect? sagaId id) →
      wp running (do
        let succeeded ← onOutside
          (.executeCompensation sagaId (some step.stepId) step.compensation)
        if succeeded then
          self.markCompensated sagaId step.stepId
          pure true
        else
          self.handleCompensationFailure sagaId step "Compensation returned False"
          pure false)
        (fun goOn after => if goOn then Undone sagaId step.stepId state.store after.store
          else Failing sagaId state.store after.store)
        (fun _ after => Calm sagaId state.store after.store) between := by
    intro between calm others
    rw [wp_bind]
    apply wp_outside trivial
    · intro succeeded world _
      rw [wp_ite]
      split
      · unfold markCompensated
        rw [wp_bind, if_pos (journals_of_journaled journaled), wp_bind]
        apply wp_transition trivial
        · intro entry found legal
          have ownId : entry.stepId = step.stepId := Table.find_key found
          rw [wp_pure, wp_pure, if_pos rfl]
          constructor
          · apply calm.trans
            apply calm_put
            exact nofun
          · intro record now
            rw [Store.effect_put_effect, if_pos ⟨rfl, ownId⟩] at now
            obtain rfl := Option.some.inj now
            rfl
          · intro id apart
            rw [Store.effect_put_effect, if_neg]
            · exact others id apart
            · exact fun both => apart (both.2.symm.trans ownId)
        · exact fun refusal illegal => calm
      · rw [wp_bind]
        apply wp_unfailing (fails_compensation journaled _)
        intro _ after failing
        rw [wp_pure, if_neg (by decide)]
        exact ⟨failing.status, calm.trans failing.calm⟩
    · exact fun error world _ => calm
  unfold compensateStep markCompensating
  rw [wp_bind, if_pos (journals_of_journaled journaled), wp_bind]
  apply wp_get_effect trivial
  · intro effect found
    rw [wp_ite]
    split
    · rw [wp_bind]
      apply wp_transition trivial
      · intro entry found legal
        have ownId : entry.stepId = step.stepId := Table.find_key found
        apply call
        · apply calm_put
          exact nofun
        · intro id apart
          rw [Store.effect_put_effect, if_neg]
          exact fun both => apart (both.2.symm.trans ownId)
      · exact fun refusal illegal => Calm.refl state.store
    · rw [wp_ite]
      split
      · exact call _ (Calm.refl state.store) fun _ _ => rfl
      · exact Calm.refl state.store
  · exact fun error missing => Calm.refl state.store

/-- A rollback that ends has compensated every step on its list, which covers the
exposed records at every turn. -/
theorem rolls_back (journaled : self.store = .journaled) (steps : List (SagaStep Args))
    (covered : ∀ stepId record, state.store.effect? sagaId stepId = some record →
      exposed record.state = true → stepId ∈ steps.map (·.stepId)) :
    wp running (self.rollback sagaId steps)
      (fun _ after => Rolled sagaId state.store after.store) (fun _ _ => False) state := by
  let rolling (rest : List (SagaStep Args)) (between : System Args Unit) : Prop :=
    Calm sagaId state.store between.store ∧ ∀ stepId record,
      between.store.effect? sagaId stepId = some record → exposed record.state = true →
      stepId ∈ rest.map (·.stepId)
  apply rollback_rule rolling
  case closes =>
    intro between ⟨calm, covered⟩
    unfold closeRollback
    rw [wp_bind]
    apply wp_memory trivial
    rw [write_status_journaled journaled]
    apply wp_write_state trivial
    constructor
    · exact calm
    · right
      intro stepId record found
      cases shape : exposed record.state with
      | false => rfl
      | true => exact absurd (covered stepId record found shape) List.not_mem_nil
  case undoes =>
    intro step rest between ⟨calm, covered⟩
    unfold undoStep
    rw [wp_attempt]
    apply wp_mono (compensates_step journaled)
    · intro goOn last ended
      cases goOn with
      | true =>
          rw [if_pos rfl] at ended
          refine ⟨calm.trans ended.calm, ?_⟩
          intro stepId record found open'
          by_cases own : stepId = step.stepId
          · subst own
            rw [ended.undone record found] at open'
            cases open'
          · rw [ended.others stepId own] at found
            have listed := covered stepId record found open'
            exact (List.mem_cons.mp listed).resolve_left own
      | false =>
          rw [if_neg (by decide)] at ended
          exact ⟨calm.trans ended.rolled.calm, ended.rolled.ended⟩
    · intro error last stepCalm
      apply wp_seq (fails_compensation journaled _)
      intro _ after failing
      rw [wp_pure, if_neg (by decide)]
      exact ⟨(calm.trans stepCalm).trans failing.calm, .inl failing.status⟩
  case here => exact ⟨Calm.refl state.store, covered⟩

/-- The calls of a run in which every rollback starts informed. -/
abbrev Informed (request : Call Args) (state : System Args Unit) : Prop :=
  startsInformed request state = true

abbrev informed : Machine (coordinatorFace Args) (System Args Unit) := running.limit Informed

omit [DecidableEq Args] in
theorem remembered {stepId : String} {record : Effect Args}
    (informed : remembers state sagaId = true)
    (found : state.store.effect? sagaId stepId = some record) (open' : exposed record.state = true) :
    stepId ∈ ((MemoryCall.completedSteps sagaId).serve state.memory).1.map (·.stepId) := by
  have ownId : record.stepId = stepId := Table.find_key found
  have listed := List.all_eq_true.mp informed record (Table.find_mem found)
  rw [open', Bool.not_true, Bool.false_or] at listed
  obtain ⟨step, member, same⟩ := List.any_eq_true.mp listed
  rw [← ownId, ← of_decide_eq_true same]
  exact List.mem_map_of_mem member

theorem rolls_back_informed (journaled : self.store = .journaled) :
    wp informed (self.executeCompensations sagaId (completedSteps sagaId))
      (fun _ after => Rolled sagaId state.store after.store) (fun _ _ => False) state := by
  apply execute_compensations_rule fun between =>
    Calm sagaId state.store between.store ∧ remembers between sagaId = true
  · rw [write_status_journaled journaled]
    apply wp_limit_perform trivial
    intro told
    apply wp_write_state trivial
    exact ⟨Calm.refl state.store, told⟩
  · intro between ⟨calm, told⟩
    apply wp_limit
    apply wp_memory trivial
    apply wp_limit
    apply wp_mono (rolls_back journaled _ _)
    · exact fun _ after rolled => ⟨calm.trans rolled.calm, rolled.ended⟩
    · exact fun _ _ impossible => impossible
    · intro stepId record found open'
      rw [List.map_reverse, List.mem_reverse]
      exact remembered told found open'

end Rollback

section Forward

variable [DecidableEq Args] {sagaId : String} {self : Coordinator} {state : System Args Unit}
  {step : SagaStep Args}

abbrev unsettled (step : SagaStep Args) (fault : StepFault) (stepId : String) : Prop :=
  stepId = step.stepId ∧ fault.executionAmbiguous = true ∧ fault.journaled = true

abbrev Still (sagaId : String) (store : Store Args) : Prop :=
  Poised sagaId (fun _ => False) store

omit [DecidableEq Args] in
theorem Rolled.closed {before after : Store Args} (rolled : Rolled sagaId before after)
    (still : Still sagaId before) : Closed sagaId after := by
  have stillNow := still.calm rolled.calm
  constructor
  · exact stillNow
  · rcases rolled.ended with status | covered
    · exact truthful_of_status status (by decide)
    · intro _ stepId record found
      have unexposed := covered stepId record found
      have unstarted := stillNow stepId record found
      cases shape : record.state <;> simp_all [quiet, exposed]

theorem marks_poised (journaled : self.store = .journaled) (still : Still sagaId state.store) :
    wp running (self.markExecuting sagaId step)
      (fun _ after => Poised sagaId (· = step.stepId) after.store)
      (fun fault after => Poised sagaId (unsettled step fault) after.store) state := by
  have mark : ∀ between : System Args Unit, Still sagaId between.store →
      wp running (do
        let _ ← flagged true false (onStore (.transitionEffect sagaId step.stepId [.prepared]
          .executing none none))
        pure ()) (fun _ after => Poised sagaId (· = step.stepId) after.store)
        (fun fault after => Poised sagaId (unsettled step fault) after.store) between := by
    intro between still
    rw [wp_bind, wp_flagged]
    apply wp_transition trivial
    · intro entry found legal
      have ownId : entry.stepId = step.stepId := Table.find_key found
      exact Poised.start still ownId
    · exact fun refusal illegal => still.mono fun _ impossible => impossible.elim
  unfold markExecuting
  rw [if_pos (journals_of_journaled journaled), wp_bind, wp_flagged]
  apply wp_prepare trivial
  · exact fun existing found agrees => mark _ still
  · intro entry absent shape
    apply mark
    apply still.calm
    apply calm_put
    rw [shape]
    exact nofun
  · exact fun refusal => still.mono fun _ impossible => impossible.elim

variable [Inhabited Args]

theorem commits_still (journaled : self.store = .journaled) {result : ExecuteResult Args}
    (poised : Poised sagaId (· = step.stepId) state.store) :
    wp running (self.commitStep sagaId step result) (fun _ after => Still sagaId after.store)
      (fun fault after => Poised sagaId (unsettled step fault) after.store) state := by
  unfold commitStep markApplied
  rw [wp_bind, if_pos (journals_of_journaled journaled), wp_bind, wp_flagged]
  apply wp_transition trivial
  · intro entry found legal
    have ownId : entry.stepId = step.stepId := Table.find_key found
    have applied : Still sagaId (state.store.putEffect sagaId
        { entry with state := .applied, result := some result.resultData, error := none }) :=
      poised.settle ownId nofun
    rw [wp_pure, wp_bind, wp_flagged]
    apply wp_memory trivial
    unfold publishStep
    rw [wp_bind, if_pos (journals_of_journaled journaled), wp_bind, wp_flagged]
    apply wp_commit trivial
    · intro entry found legal
      rw [wp_pure, wp_bind, wp_flagged, record_history_journaled journaled]
      apply wp_record_step trivial
      intro stepId record now executing
      rw [Store.effect_record_step, Store.effect_publish] at now
      apply applied.calm _ stepId record now executing
      apply calm_put
      exact nofun
    · exact fun refusal illegal => applied.mono fun _ impossible => impossible.elim
  · exact fun refusal illegal => poised.mono fun _ own => ⟨own, rfl, rfl⟩

theorem executes_still (journaled : self.store = .journaled) (still : Still sagaId state.store) :
    wp running (self.executeStep sagaId step) (fun _ after => Still sagaId after.store)
      (fun fault after => Poised sagaId (unsettled step fault) after.store) state := by
  apply execute_step_rule fun marked => Poised sagaId (· = step.stepId) marked.store
  · exact marks_poised journaled still
  · intro marked poised
    apply wp_outside trivial
    · intro result world _
      split
      · exact commits_still journaled poised
      · unfold abortStep
        rw [if_pos (journals_of_journaled journaled), wp_bind, wp_flagged]
        apply wp_transition trivial
        · intro entry found legal
          have ownId : entry.stepId = step.stepId := Table.find_key found
          exact Poised.settle poised ownId nofun
        · exact fun refusal illegal => poised.mono fun _ own => ⟨own, rfl, rfl⟩
    · intro error world _
      rw [journals_of_journaled journaled]
      exact poised.mono fun _ own => ⟨own, rfl, rfl⟩

/-- What the `try` block of a step leaves to the loop. -/
def Outcome (sagaId : String) (outcome : Option (SagaStep Args)) (store : Store Args) : Prop :=
  match outcome with
  | some _ => Still sagaId store
  | none => Closed sagaId store

omit [Inhabited Args] in
theorem awaits_closed (journaled : self.store = .journaled) (steps : List (SagaStep Args))
    (still : Still sagaId state.store) :
    wp running (self.awaitApproval sagaId steps step) (fun _ after => Closed sagaId after.store)
      (fun _ _ => False) state := by
  unfold awaitApproval
  rw [wp_bind]
  apply wp_memory trivial
  rw [wp_bind]
  apply wp_memory trivial
  rw [write_status_journaled journaled]
  apply wp_write_state trivial
  constructor
  · exact still
  · apply truthful_of_status
    · rw [Store.status_write_state, if_pos rfl]
    · decide

theorem attempts_still (journaled : self.store = .journaled) {before after : List (SagaStep Args)}
    (still : Still sagaId state.store) :
    wp informed (self.attemptStep sagaId before step after)
      (fun outcome last => Outcome sagaId outcome last.store)
      (fun fault last => Poised sagaId (unsettled step fault) last.store) state := by
  have unstarted : ∀ {fault : StepFault} {last : System Args Unit}, Still sagaId last.store →
      Poised sagaId (unsettled step fault) last.store :=
    fun still => still.mono fun _ impossible => impossible.elim
  let calm (between : System Args Unit) : Prop := Still sagaId between.store
  apply attempt_step_rule calm calm calm
  case verifies =>
    apply wp_limit_perform trivial
    intro _
    apply wp_outside trivial
    · intro verdict world _
      split
      · exact still
      · exact still
    · exact fun error world _ => unstarted still
  case checks =>
    intro between still
    unfold preflight
    rw [wp_ite]
    split
    · apply wp_limit_perform trivial
      intro _
      apply wp_outside trivial
      · exact fun _ world _ => still
      · exact fun error world _ => unstarted still
    · exact still
  case waits =>
    intro between still _ _
    apply wp_limit
    apply wp_unfailing (awaits_closed journaled _ still)
    exact fun _ last closed => closed
  case executes => exact fun still _ => wp_limit (executes_still journaled still)
  case retreats =>
    intro between still
    apply wp_unfailing (rolls_back_informed journaled)
    exact fun _ last rolled => rolled.closed still

omit [Inhabited Args] in
theorem quarantines_closed (poised : Poised sagaId (· = step.stepId) state.store) :
    wp running (quarantineStep sagaId step) (fun _ after => Closed sagaId after.store)
      (fun _ _ => False) state := by
  have letter : ∀ (between : System Args Unit) (stepName error : String),
      Still sagaId between.store →
      wp running (deadLetterRecovery sagaId stepName error)
        (fun _ after => Closed sagaId after.store) (fun _ _ => False) between := by
    intro between stepName error still
    unfold deadLetterRecovery
    rw [wp_bind]
    apply wp_write_state trivial
    apply wp_push_dead_letter trivial
    constructor
    · exact still
    · apply truthful_of_status _ (show SagaStatus.compensationFailed ≠ .rolledBack by decide)
      rw [Store.status_push_dead_letter, Store.status_write_state, if_pos rfl]
  unfold quarantineStep
  rw [wp_bind, wp_attempt, wp_bind]
  apply wp_transition trivial
  · intro entry found legal
    have ownId : entry.stepId = step.stepId := Table.find_key found
    apply letter
    exact Poised.settle poised ownId nofun
  · intro refusal illegal
    apply letter
    intro stepId record found executing
    obtain rfl := poised stepId record found executing
    apply illegal record found
    simp [executing]

omit [Inhabited Args] in
theorem fails_closed (journaled : self.store = .journaled) {fault : StepFault}
    (poised : Poised sagaId (unsettled step fault) state.store) :
    wp informed (self.failStep sagaId step fault) (fun _ after => Closed sagaId after.store)
      (fun _ _ => False) state := by
  apply fail_step_rule fun between => Rolled sagaId state.store between.store
  case compensates =>
    apply wp_mono (rolls_back_informed journaled)
    · exact fun _ _ rolled => rolled
    · exact fun _ _ impossible => impossible
  case quarantines =>
    intro between rolled _ _
    apply wp_limit
    apply quarantines_closed
    exact (poised.calm rolled.calm).mono fun _ own => own.1
  case rests =>
    intro between rolled settled
    have still : Still sagaId state.store := poised.mono fun _ own => settled own.2
    exact rolled.closed still

theorem batch_closed (journaled : self.store = .journaled) (before steps : List (SagaStep Args))
    (still : Still sagaId state.store) :
    wp informed (self.executeSteps sagaId before steps) (fun _ after => Closed sagaId after.store)
      (fun _ _ => False) state := by
  let calm (between : System Args Unit) : Prop := Still sagaId between.store
  apply execute_steps_rule (fun _ _ => calm) fun _ _ _ => calm
  case closes =>
    intro _ between still
    apply wp_limit
    unfold closeBatch
    rw [wp_bind]
    apply wp_memory trivial
    rw [wp_bind, write_status_journaled journaled]
    apply wp_write_state trivial
    apply wp_memory trivial
    constructor
    · exact still
    · apply truthful_of_status
      · rw [Store.status_write_state, if_pos rfl]
      · decide
  case asks =>
    intro _ step rest between still
    unfold alreadyCommitted
    rw [wp_ite]
    split
    · apply wp_limit_perform trivial
      intro _
      refine (wp_on_store _ _ _ _).mpr ⟨trivial, ?_⟩
      simp only [StoreCall.serve, replied_ok]
      split
      · exact still
      · exact still
    · exact still
  case attempts =>
    intro _ step rest between still
    apply wp_mono (attempts_still journaled still)
    · intro outcome last ended
      cases outcome with
      | none => exact ended
      | some committed => exact ended
    · exact fun fault last poised => fails_closed journaled poised
  case here => exact still

theorem saga_closed (journaled : self.store = .journaled) (steps : List (SagaStep Args))
    (closed : Closed sagaId state.store) :
    wp informed (self.executeSaga sagaId steps) (fun _ after => Closed sagaId after.store)
      (fun _ after => Closed sagaId after.store) state := by
  unfold executeSaga
  rw [wp_bind]
  apply wp_limit_perform trivial
  intro _
  apply wp_memory trivial
  rw [wp_ite]
  split
  · apply wp_unfailing (batch_closed journaled [] steps closed.still)
    exact fun _ _ closed => closed
  · exact closed

theorem request_closed (journaled : self.store = .journaled) {request : ApiCall Args}
    (own : request.sagaId? = some sagaId) (closed : Closed sagaId state.store) :
    wp informed (request.program self) (fun _ after => Closed sagaId after.store)
      (fun _ after => Closed sagaId after.store) state := by
  have status : ∀ (status : SagaStatus) (metadata : Metadata Args), status ≠ .rolledBack →
      Closed sagaId (state.store.writeTransactionState sagaId status metadata) := by
    intro status metadata other
    constructor
    · exact closed.still
    · apply truthful_of_status _ other
      rw [Store.status_write_state, if_pos rfl]
  cases request with
  | start owner goal tenantId =>
      obtain rfl := Option.some.inj own
      apply wp_limit
      unfold ApiCall.program startTransactionLog
      rw [wp_bind]
      apply wp_memory trivial
      rw [wp_ite]
      split
      · exact closed
      · rw [wp_bind]
        apply wp_memory trivial
        rw [write_status_journaled journaled]
        apply wp_write_state trivial
        exact status _ _ (by decide)
  | execute owner steps =>
      obtain rfl := Option.some.inj own
      unfold ApiCall.program
      rw [wp_void]
      exact saga_closed journaled steps closed
  | resume owner =>
      obtain rfl := Option.some.inj own
      unfold ApiCall.program resumeAfterApproval
      rw [wp_void, wp_bind]
      apply wp_limit_perform trivial
      intro _
      apply wp_memory trivial
      split
      · exact closed
      · rw [wp_ite]
        split
        · exact closed
        · rw [wp_bind]
          apply wp_limit_perform trivial
          intro _
          apply wp_memory trivial
          rw [wp_bind]
          apply wp_limit_perform trivial
          intro _
          apply wp_memory trivial
          rw [wp_bind, write_status_journaled journaled]
          apply wp_limit_perform trivial
          intro _
          apply wp_write_state trivial
          apply saga_closed journaled
          exact status _ _ (by decide)
  | reject owner =>
      obtain rfl := Option.some.inj own
      unfold ApiCall.program rejectPending
      rw [wp_void, wp_bind]
      apply wp_limit_perform trivial
      intro _
      apply wp_memory trivial
      split
      · exact closed
      · rw [wp_ite]
        split
        · exact closed
        · rw [wp_bind]
          apply wp_limit_perform trivial
          intro _
          apply wp_memory trivial
          rw [wp_bind, write_status_journaled journaled]
          apply wp_limit_perform trivial
          intro _
          apply wp_write_state trivial
          rw [wp_bind]
          apply wp_unfailing (rolls_back_informed journaled)
          exact fun _ after rolled => rolled.closed closed.still
  | recover => cases own

end Forward

section Recovery

variable [DecidableEq Args] {self : Coordinator} {sagaId : String}

theorem calm_recovery {request : Call Args} {before after : System Args Unit}
    {reply : Except PyError request.Answer} (recovery : RecoveryCall sagaId request)
    (taken : serveCall anyone request before reply after) :
    Calm sagaId before.store after.store := by
  rcases request with request | request | request
  · obtain ⟨-, rfl⟩ := taken
    exact .refl _
  · obtain ⟨-, rfl⟩ := taken
    cases request with
    | transitionEffect owner stepId expected newState result error =>
        obtain ⟨rfl, -, other⟩ := recovery
        rcases before.store.transition_effect_cases owner stepId expected newState result error with
          ⟨entry, found, legal, same⟩ | ⟨_, _, same⟩
        · simp only [afterStore, StoreCall.serve, same]
          exact calm_put other
        · simp only [afterStore, StoreCall.serve, same]
          exact .refl _
    | writeTransactionState | pushDeadLetter | stepAlreadyCommitted => exact Calm.refl before.store
    | _ => exact recovery.elim
  · obtain ⟨world, -, rfl⟩ := taken
    exact .refl _

theorem recovered_truthful {saga : IncompleteSaga Args} {state : System Args Unit}
    (listed : Listed saga state.store) (closed : Closed saga.sagaId state.store) :
    wp running (self.recoverSaga saga) (fun _ after => Truthful after.store saga.sagaId)
      (fun _ _ => False) state := by
  unfold recoverSaga
  rw [wp_ite]
  split
  · rw [wp_bind]
    apply wp_memory trivial
    exact closed.truthful
  · rename_i working
    have walking := listed.walking (by simpa using working)
    rw [wp_ite]
    split
    · rw [wp_bind]
      apply wp_recover_effects unguarded_grounds _ walking
      constructor
      · intro after done
        have calm : ∀ stepId record, after.store.effect? saga.sagaId stepId = some record →
            quiet record.state = true := by
          intro stepId record found
          cases shape : settled record.state with
          | true => cases state : record.state <;> simp_all [settled, quiet]
          | false => exact absurd (done.unsettled stepId record found shape) List.not_mem_nil
        rw [if_pos rfl, wp_bind]
        apply wp_write_state trivial
        exact fun _ => calm
      · intro after lettered
        rw [if_neg (by decide)]
        exact truthful_of_status lettered.failed (by decide)
    · rename_i bare
      have empty : ∀ stepId, state.store.effect? saga.sagaId stepId = none := by
        intro stepId
        cases found : state.store.effect? saga.sagaId stepId with
        | none => rfl
        | some record =>
            have member : record ∈ saga.effects := listed.effects ▸ Table.find_mem found
            rw [not_not.mp bare] at member
            exact absurd member List.not_mem_nil
      rw [wp_bind]
      apply wp_replay_compensations _ fun _ => trivial
      intro outcome world
      cases outcome with
      | some error =>
          rw [wp_bind]
          apply wp_write_state trivial
          rw [wp_bind]
          apply wp_push_dead_letter trivial
          intro _ stepId record found
          rw [Store.effect_push_dead_letter, Store.effect_write_state, empty] at found
          cases found
      | none =>
          rw [wp_bind]
          apply wp_write_state trivial
          intro _ stepId record found
          rw [Store.effect_write_state, empty] at found
          cases found

theorem recovered_closed {saga : IncompleteSaga Args} {state : System Args Unit}
    (listed : Listed saga state.store) (closed : Closed saga.sagaId state.store) :
    wp running (self.recoverSaga saga) (fun _ after => Closed saga.sagaId after.store)
      (fun _ _ => False) state := by
  have kept := @wp_related (coordinatorFace Args) (System Args Unit) PyError Bool running
    (RecoveryCall saga.sagaId) (fun before after => Calm saga.sagaId before.store after.store)
    (fun before => .refl before.store) (fun left right => left.trans right)
    (fun _ _ _ _ recovery taken => calm_recovery recovery taken) _
    (self.recovery_recover_saga saga) _ _ state (recovered_truthful listed closed)
  apply wp_mono kept
  · exact fun _ after ends => ⟨closed.still.calm ends.2, ends.1⟩
  · exact fun _ _ ends => ends.1

theorem recover_closed (journaled : self.store = .journaled) {state : System Args Unit}
    (closed : ∀ sagaId, Closed sagaId state.store) :
    wp running self.recover (fun _ after => ∀ sagaId, Closed sagaId after.store)
      (fun _ _ => False) state := by
  have sweepable : Sweepable (fun sagaId (store : Store Args) => Closed sagaId store)
      (fun sagaId store => Closed sagaId store) :=
    ⟨fun closed => closed, untouched_closed, untouched_closed⟩
  have stored := has_store_of_journaled journaled
  have swept := @wp_recover Args Unit _ _ _ anyone (fun _ _ => True) self stored sweepable (fun _ => trivial)
    (fun listed closed => recovered_closed listed closed) state closed fun sagaId _ => closed sagaId
  exact wp_guard_mono (fun _ _ _ => trivial) swept

end Recovery

section Runs

variable [DecidableEq Args] [Inhabited Args]

theorem turn_closed {self : Coordinator} (journaled : self.store = .journaled)
    (request : ApiCall Args) {state : System Args Unit}
    (closed : ∀ sagaId, Closed sagaId state.store) :
    wp informed (request.program self) (fun _ after => ∀ sagaId, Closed sagaId after.store)
      (fun _ after => ∀ sagaId, Closed sagaId after.store) state := by
  cases own : request.sagaId? with
  | none =>
      cases request with
      | recover =>
          apply wp_limit
          unfold ApiCall.program
          rw [wp_void]
          apply wp_unfailing (recover_closed journaled closed)
          exact fun _ _ closed => closed
      | start | execute | resume | reject => cases own
  | some sagaId =>
      have others : ∀ after : System Args Unit, Closed sagaId after.store ∧
          Untouched sagaId state.store after.store → ∀ other, Closed other after.store := by
        intro after ends other
        by_cases same : other = sagaId
        · rw [same]
          exact ends.1
        · exact untouched_closed ends.2 same (closed other)
      apply wp_mono (wp_untouched_limit (request.confined_program self own)
        (request_closed journaled own (closed sagaId)))
      · exact fun _ after ends => others after ends
      · exact fun _ after ends => others after ends

/-- Whenever a call has returned and the durable status is `ROLLED_BACK`, every
record of the saga is in a quiet state, as long as no rollback starts while a
record is exposed that its coordinator does not remember. -/
theorem rolled_back_is_truthful {cluster : Cluster Args} (reached : Turns Informed cluster)
    (sagaId : String) : Truthful cluster.store sagaId := by
  have closed : ∀ sagaId, Closed sagaId cluster.store := by
    change (fun cluster : Cluster Args => ∀ sagaId, Closed sagaId cluster.store) cluster
    apply sessions_invariant _ _ reached
    · intro sagaId
      constructor
      · intro stepId record found
        cases found
      · intro rolledBack
        cases rolledBack
    · intro owner program cluster closed admitted
      obtain ⟨self, request, journaled, rfl⟩ := admitted
      exact wp_turn (turn_closed journaled request closed)
  exact (closed sagaId).truthful

def refusing : (request : OutsideCall Unit) → Except PyError request.Answer
  | .verify _ invariants => .ok (invariants = "", "")
  | request => accepting request

def undone : Cluster Unit :=
  rehearsedTurns startsInformed refusing
    [(0, .start "s" "" ""),
      (0, .execute "s" [sampleStep "a" none, { sampleStep "b" none with invariants := "false" }])]

theorem undone_is_truthful : undone.store.status? "s" = some .rolledBack ∧
    (undone.store.effect? "s" "a").map (·.state) = some .compensated ∧
    Truthful undone.store "s" := by
  refine ⟨by decide, by decide, ?_⟩
  exact rolled_back_is_truthful (rehearsed_turns_reached (fun _ _ passed => passed) _ _) "s"

/-- One coordinator commits a step; another one starts the saga again and is
given the same step. -/
def retried (check : Call Unit → System Unit Unit → Bool) : Cluster Unit :=
  rehearsedTurns check accepting
    [(0, .start "s" "" ""), (0, .execute "s" [sampleStep "a" none]),
      (1, .start "s" "" ""), (1, .execute "s" [sampleStep "a" none])]

/-- The retry meets the committed record, raises a conflict, and rolls back the
empty list of steps that it remembers. -/
theorem retried_claims_rollback :
    ¬∀ (cluster : Cluster Unit) (sagaId : String), Turns (fun _ _ => True) cluster →
      Truthful cluster.store sagaId := by
  intro claim
  have truthful := claim (retried fun _ _ => true) "s"
    (rehearsed_turns_reached (fun _ _ _ => trivial) _ _)
  have rolledBack : (retried fun _ _ => true).store.status? "s" = some .rolledBack := by decide
  have committed : ((retried fun _ _ => true).store.effect? "s" "a").map (·.state) =
      some .committed := by decide
  obtain ⟨record, found, state⟩ := Option.map_eq_some_iff.mp committed
  have calm := truthful rolledBack "a" record found
  rw [state] at calm
  cases calm

end Runs

end SagaMind.RollbackTruth
