import SagaMind.Coordinator.Frame

/-!
# A program works on one saga of one tenant

Every program of the coordinator but `recover` asks about its own saga only,
and where it names a tenant it names the one that the saga was started for.
-/

namespace SagaMind

open CallProgram KeyedTable Coordinator

set_option autoImplicit false

variable {Args : Type}

def Call.concerns? : Call Args → Option String
  | .memory (.lookupSaga sagaId) => some sagaId
  | .memory (.registerSaga saga) => some saga.sagaId
  | .memory (.completedSteps sagaId) => some sagaId
  | .memory (.appendCompleted sagaId _) => some sagaId
  | .memory (.setStatus sagaId _) => some sagaId
  | .memory (.setStatusIfActive sagaId _) => some sagaId
  | .memory (.setPending sagaId _) => some sagaId
  | .memory (.evictIfNeeded _) => none
  | .store (.writeTransactionState sagaId ..) => some sagaId
  | .store (.prepareEffect sagaId ..) => some sagaId
  | .store (.transitionEffect sagaId ..) => some sagaId
  | .store (.commitEffect sagaId ..) => some sagaId
  | .store (.getEffect sagaId _) => some sagaId
  | .store (.stepAlreadyCommitted sagaId _) => some sagaId
  | .store (.markStepCommitted sagaId _) => some sagaId
  | .store (.appendCompensation sagaId _) => some sagaId
  | .store (.pushDeadLetter sagaId ..) => some sagaId
  | .store (.recordStep sagaId _) => some sagaId
  | .store .listIncomplete => none
  | .outside (.execute sagaId _) => some sagaId
  | .outside (.executeCompensation sagaId ..) => some sagaId
  | .outside _ => none

def Call.names? : Call Args → Option String
  | .memory (.registerSaga saga) => some saga.tenantId
  | .store (.writeTransactionState _ _ metadata) => metadata.tenantId
  | _ => none

structure OwnCall (sagaId tenantId : String) (request : Call Args) : Prop where
  single : request ≠ .store .listIncomplete
  about : ∀ owner ∈ request.concerns?, owner = sagaId
  names : ∀ tenant ∈ request.names?, tenant = tenantId

namespace Coordinator

variable {sagaId tenantId : String}

theorem only_some {held : Option String} {name : String} (same : held = some name) :
    ∀ other ∈ held, other = name :=
  fun _ member => Option.some.inj (member.symm.trans same)

theorem only_none {held : Option String} {name : String} (absent : held = none) :
    ∀ other ∈ held, other = name := by
  intro other member
  rw [absent] at member
  cases member

theorem own_call {request : Call Args} (about : request.concerns? = some sagaId)
    (names : ∀ tenant ∈ request.names?, tenant = tenantId) : OwnCall sagaId tenantId request where
  single := by
    rintro rfl
    cases about
  about := only_some about
  names := names

theorem own_store {request : StoreCall Args} (about : (Call.store request).concerns? = some sagaId)
    (silent : (Call.store request).names? = none) :
    Uses (OwnCall sagaId tenantId) (onStore request) :=
  @conforms_perform (coordinatorFace Args) _ _ _ fun _ => own_call about (only_none silent)

theorem own_memory {request : MemoryCall Args}
    (about : (Call.memory request).concerns? = some sagaId)
    (silent : (Call.memory request).names? = none) :
    Uses (OwnCall sagaId tenantId) (onMemory request) :=
  @conforms_perform (coordinatorFace Args) _ _ _ fun _ => own_call about (only_none silent)

theorem own_outside {request : OutsideCall Args}
    (about : ∀ owner ∈ (Call.outside request).concerns?, owner = sagaId) :
    Uses (OwnCall sagaId tenantId) (onOutside request) := by
  apply @conforms_perform (coordinatorFace Args)
  intro _
  refine ⟨?_, about, only_none rfl⟩
  rintro ⟨⟩

theorem own_evict (limit : Nat) :
    Uses (OwnCall sagaId tenantId) (onMemory (.evictIfNeeded limit) : Action Args Unit) := by
  apply @conforms_perform (coordinatorFace Args)
  intro _
  refine ⟨?_, ?_, only_none rfl⟩
  · rintro ⟨⟩
  · exact fun _ concerned => by cases concerned

theorem own_flagged {Value : Type} {action : Action Args Value}
    (own : Uses (OwnCall sagaId tenantId) action) (journaled ambiguous : Bool) :
    Uses (OwnCall sagaId tenantId) (flagged journaled ambiguous action) :=
  conforms_attempt own fun _ => conforms_raise _

theorem own_write_status (self : Coordinator) {status : SagaStatus} {metadata : Metadata Args}
    (silent : metadata.tenantId = none) :
    Uses (OwnCall sagaId tenantId) (self.writeStatus sagaId status metadata) :=
  conforms_ite (own_store rfl silent) (conforms_pure _)

section Rollback

theorem own_files : FilesUndoing (@OwnCall Args sagaId tenantId) sagaId where
  reads := fun _ => own_call rfl (only_none rfl)
  claims := fun _ => own_call rfl (only_none rfl)
  closes := fun _ _ _ => own_call rfl (only_none rfl)

theorem own_handle_failure (self : Coordinator) (step : SagaStep Args) (error : String) :
    Uses (OwnCall sagaId tenantId) (self.handleCompensationFailure sagaId step error) := by
  apply conforms_bind (own_memory rfl rfl)
  intro _
  apply conforms_ite
  · apply conforms_bind (own_store rfl rfl)
    intro _
    apply conforms_bind
    · intro _
      apply wp_mono (self.swallows_failure own_files step.stepId error)
      · exact fun _ _ _ => trivial
      · exact fun _ _ _ => trivial
    · exact fun _ => own_store rfl rfl
  · exact conforms_pure _

theorem own_compensate_step (self : Coordinator) (step : SagaStep Args) :
    Uses (OwnCall sagaId tenantId) (self.compensateStep sagaId step) := by
  apply conforms_bind (self.uses_mark_compensating own_files step.stepId)
  intro _
  apply conforms_bind (own_outside (only_some rfl))
  intro succeeded
  apply conforms_ite
  · apply conforms_bind (self.uses_mark_compensated own_files step.stepId)
    exact fun _ => conforms_pure _
  · exact conforms_bind (self.own_handle_failure step _) fun _ => conforms_pure _

theorem own_rollback (self : Coordinator) (steps : List (SagaStep Args)) :
    Uses (OwnCall sagaId tenantId) (self.rollback sagaId steps) := by
  induction steps with
  | nil =>
      exact conforms_bind (own_memory rfl rfl) fun _ => self.own_write_status rfl
  | cons step rest ih =>
      apply conforms_bind
      · apply conforms_attempt (self.own_compensate_step step)
        intro error
        exact conforms_bind (self.own_handle_failure step _) fun _ => conforms_pure _
      · exact fun goOn => conforms_ite ih (conforms_pure _)

theorem own_execute_compensations (self : Coordinator) :
    Uses (OwnCall sagaId tenantId)
      (self.executeCompensations sagaId (completedSteps sagaId) : Action Args Unit) := by
  apply conforms_bind (self.own_write_status rfl)
  intro _
  exact conforms_bind (own_memory rfl rfl) fun steps => self.own_rollback steps.reverse

theorem own_quarantine_step (step : SagaStep Args) :
    Uses (OwnCall sagaId tenantId) (quarantineStep sagaId step) := by
  apply conforms_bind
  · apply conforms_attempt
    · exact conforms_bind (own_store rfl rfl) fun _ => conforms_pure _
    · exact fun _ => conforms_pure _
  · exact fun stepName => conforms_bind (own_store rfl rfl) fun _ => own_store rfl rfl

theorem own_fail_step (self : Coordinator) (step : SagaStep Args) (fault : StepFault) :
    Uses (OwnCall sagaId tenantId) (self.failStep sagaId step fault) := by
  apply conforms_bind self.own_execute_compensations
  exact fun _ => conforms_ite (own_quarantine_step step) (conforms_pure _)

end Rollback

section Forward

theorem own_mark_executing (self : Coordinator) (step : SagaStep Args) :
    Uses (OwnCall sagaId tenantId) (self.markExecuting sagaId step) := by
  apply conforms_ite
  · apply conforms_bind (own_flagged (own_store rfl rfl) _ _)
    intro _
    exact conforms_bind (own_flagged (own_store rfl rfl) _ _) fun _ => conforms_pure _
  · exact conforms_pure _

theorem own_abort_step {Value : Type} (self : Coordinator) (step : SagaStep Args)
    (result : ExecuteResult Args) : Uses (OwnCall sagaId tenantId)
      (self.abortStep sagaId step result : Program (coordinatorFace Args) StepFault Value) := by
  apply conforms_ite
  · exact conforms_bind (own_flagged (own_store rfl rfl) _ _) fun _ => conforms_raise _
  · exact conforms_raise _

theorem own_publish_step (self : Coordinator) (step : SagaStep Args) :
    Uses (OwnCall sagaId tenantId) (self.publishStep sagaId step) := by
  apply conforms_ite
  · exact conforms_bind (own_flagged (own_store rfl rfl) _ _) fun _ => conforms_pure _
  · apply own_flagged
    apply conforms_ite
    · exact conforms_bind (own_store rfl rfl) fun _ => conforms_ite (own_store rfl rfl) (conforms_pure _)
    · exact conforms_pure _

variable [Inhabited Args]

theorem own_commit_step (self : Coordinator) (step : SagaStep Args)
    (result : ExecuteResult Args) :
    Uses (OwnCall sagaId tenantId) (self.commitStep sagaId step result) := by
  apply conforms_bind
  · apply conforms_ite
    · exact conforms_bind (own_flagged (own_store rfl rfl) _ _) fun _ => conforms_pure _
    · exact conforms_pure _
  · intro _
    apply conforms_bind (own_flagged (own_memory rfl rfl) _ _)
    intro _
    apply conforms_bind (self.own_publish_step _)
    intro _
    apply conforms_bind (own_flagged (conforms_ite (own_store rfl rfl) (conforms_pure _)) _ _)
    exact fun _ => conforms_pure _

theorem own_execute_step (self : Coordinator) (step : SagaStep Args) :
    Uses (OwnCall sagaId tenantId) (self.executeStep sagaId step) := by
  apply conforms_bind (self.own_mark_executing step)
  intro _
  apply conforms_bind (own_flagged (own_outside (only_some rfl)) _ _)
  exact fun result => conforms_ite (self.own_commit_step _ _) (self.own_abort_step _ _)

variable [DecidableEq Args]

omit [Inhabited Args] in
theorem own_await_approval (self : Coordinator) (steps : List (SagaStep Args))
    (step : SagaStep Args) : Uses (OwnCall sagaId tenantId) (self.awaitApproval sagaId steps step) := by
  apply conforms_bind (own_memory rfl rfl)
  intro _
  exact conforms_bind (own_memory rfl rfl) fun _ => self.own_write_status rfl

theorem own_attempt_step (self : Coordinator) (before : List (SagaStep Args))
    (step : SagaStep Args) (after : List (SagaStep Args)) :
    Uses (OwnCall sagaId tenantId) (self.attemptStep sagaId before step after) := by
  apply conforms_bind (own_flagged (own_outside (only_none rfl)) _ _)
  intro verdict
  apply conforms_ite
  · apply conforms_bind (own_flagged (conforms_ite (own_outside (only_none rfl)) (conforms_pure _)) _ _)
    intro _
    apply conforms_ite
    · apply conforms_bind (own_flagged (self.own_await_approval _ _) _ _)
      exact fun _ => conforms_pure _
    · exact conforms_bind (self.own_execute_step _) fun _ => conforms_pure _
  · apply conforms_bind (own_flagged self.own_execute_compensations _ _)
    exact fun _ => conforms_pure _

theorem own_execute_steps (self : Coordinator) (before steps : List (SagaStep Args)) :
    Uses (OwnCall sagaId tenantId) (self.executeSteps sagaId before steps) := by
  induction steps generalizing before with
  | nil =>
      apply conforms_bind (own_memory rfl rfl)
      intro _
      apply conforms_bind (self.own_write_status rfl)
      exact fun _ => conforms_bind (own_evict _) fun _ => conforms_pure _
  | cons step after ih =>
      apply conforms_bind (conforms_ite (own_store rfl rfl) (conforms_pure _))
      intro skip
      apply conforms_ite (ih _)
      apply conforms_bind
      · apply conforms_attempt (self.own_attempt_step _ _ _)
        exact fun fault => conforms_bind (self.own_fail_step _ _) fun _ => conforms_pure _
      · intro outcome
        cases outcome with
        | none => exact conforms_pure _
        | some committed => exact ih _

theorem own_execute_saga (self : Coordinator) (steps : List (SagaStep Args)) :
    Uses (OwnCall sagaId tenantId) (self.executeSaga sagaId steps) := by
  apply conforms_bind (own_memory rfl rfl)
  exact fun _ => conforms_ite (self.own_execute_steps _ _) (conforms_raise _)

theorem own_resume_after_approval (self : Coordinator) :
    Uses (OwnCall sagaId tenantId) (self.resumeAfterApproval sagaId : Action Args Bool) := by
  apply conforms_bind (own_memory rfl rfl)
  intro saga
  cases saga with
  | none => exact conforms_raise _
  | some saga =>
      apply conforms_ite (conforms_raise _)
      apply conforms_bind (own_memory rfl rfl)
      intro _
      apply conforms_bind (own_memory rfl rfl)
      intro _
      apply conforms_bind (self.own_write_status rfl)
      exact fun _ => self.own_execute_saga _

end Forward

theorem own_reject_pending (self : Coordinator) :
    Uses (OwnCall sagaId tenantId) (self.rejectPending sagaId : Action Args Bool) := by
  apply conforms_bind (own_memory rfl rfl)
  intro saga
  cases saga with
  | none => exact conforms_raise _
  | some saga =>
      apply conforms_ite (conforms_raise _)
      apply conforms_bind (own_memory rfl rfl)
      intro _
      apply conforms_bind (self.own_write_status rfl)
      exact fun _ => conforms_bind self.own_execute_compensations fun _ => conforms_pure _

theorem own_start_transaction_log (self : Coordinator) (goal : String) :
    Uses (OwnCall sagaId tenantId)
      (self.startTransactionLog sagaId goal tenantId : Action Args Unit) := by
  apply conforms_bind (own_memory rfl rfl)
  intro known
  apply conforms_ite (conforms_raise _)
  have registers : OwnCall sagaId tenantId (.memory (.registerSaga
      { sagaId, tenantId, goal, status := .running }) : Call Args) :=
    own_call rfl (only_some rfl)
  have writes : OwnCall sagaId tenantId (.store (.writeTransactionState sagaId .running
      { goal := some goal, tenantId := some tenantId }) : Call Args) :=
    own_call rfl (only_some rfl)
  apply conforms_bind
  · exact @conforms_perform (coordinatorFace Args) _ _ _ fun _ => registers
  · intro _
    apply conforms_ite
    · exact @conforms_perform (coordinatorFace Args) _ _ _ fun _ => writes
    · exact conforms_pure _

end Coordinator

section Memories

variable {sagaId tenantId : String}

/-- Every saga object is of the tenant that its identity belongs to. -/
def Memory.Labelled (tenantOf : String → String) (memory : Memory Args) : Prop :=
  (∀ saga ∈ memory.active.rows, saga.tenantId = tenantOf saga.sagaId) ∧
    ∀ saga ∈ memory.released.rows, saga.tenantId = tenantOf saga.sagaId

/-- What is left of the saga in memory: the object, which an eviction may
release if the saga is over. -/
structure Memory.Keeps (sagaId : String) (before after : Memory Args) : Prop where
  held : after.held? sagaId = before.held? sagaId
  active : after.active.find? sagaId = before.active.find? sagaId ∨
    (∃ saga, before.active.find? sagaId = some saga ∧ Memory.evictable saga.status = true) ∧
      after.active.find? sagaId = none

namespace Memory

variable {tenantOf : String → String} {memory before between after : Memory Args}

theorem Keeps.refl (memory : Memory Args) : Keeps sagaId memory memory := ⟨rfl, .inl rfl⟩

theorem Keeps.trans (first : Keeps sagaId before between) (second : Keeps sagaId between after) :
    Keeps sagaId before after := by
  refine ⟨second.held.trans first.held, ?_⟩
  rcases second.active with same | ⟨⟨saga, found, settled⟩, gone⟩
  · rcases first.active with equal | ⟨released, gone⟩
    · exact .inl (same.trans equal)
    · exact .inr ⟨released, same.trans gone⟩
  · rcases first.active with equal | ⟨released, _⟩
    · exact .inr ⟨⟨saga, equal.symm.trans found, settled⟩, gone⟩
    · exact .inr ⟨released, gone⟩

theorem labelled_put {table : Table (@SagaTransaction.sagaId Args)} {saga : SagaTransaction Args}
    (labelled : ∀ saga ∈ table.rows, saga.tenantId = tenantOf saga.sagaId)
    (own : saga.tenantId = tenantOf saga.sagaId) :
    ∀ other ∈ (table.put saga).rows, other.tenantId = tenantOf other.sagaId := by
  intro other member
  rcases Table.mem_put_rows member with rfl | old
  · exact own
  · exact labelled other old

structure Assigns (change : SagaTransaction Args → SagaTransaction Args) : Prop where
  sagaId : ∀ saga, (change saga).sagaId = saga.sagaId
  tenantId : ∀ saga, (change saga).tenantId = saga.tenantId

theorem assigns_completed (step : SagaStep Args) : Assigns fun saga : SagaTransaction Args =>
    { saga with completedSteps := saga.completedSteps ++ [step] } :=
  ⟨fun _ => rfl, fun _ => rfl⟩

theorem assigns_status (status : SagaStatus) : Assigns fun saga : SagaTransaction Args =>
    { saga with status } :=
  ⟨fun _ => rfl, fun _ => rfl⟩

theorem assigns_pending (steps : List (SagaStep Args)) :
    Assigns fun saga : SagaTransaction Args => { saga with pendingSteps := steps } :=
  ⟨fun _ => rfl, fun _ => rfl⟩

variable {change : SagaTransaction Args → SagaTransaction Args}

theorem labelled_amend (assigns : Assigns change) (labelled : memory.Labelled tenantOf)
    (owner : String) : (memory.amend owner change).Labelled tenantOf := by
  have changed : ∀ saga : SagaTransaction Args, saga.tenantId = tenantOf saga.sagaId →
      (change saga).tenantId = tenantOf (change saga).sagaId := by
    intro saga own
    rw [assigns.tenantId, assigns.sagaId, own]
  unfold amend
  split
  · rename_i saga found
    exact ⟨labelled_put labelled.1 (changed saga (labelled.1 saga (Table.find_mem found))),
      labelled.2⟩
  · split
    · rename_i saga found
      exact ⟨labelled.1,
        labelled_put labelled.2 (changed saga (labelled.2 saga (Table.find_mem found)))⟩
    · exact labelled

theorem keeps_amend (assigns : Assigns change) {owner : String} (apart : sagaId ≠ owner)
    (memory : Memory Args) : Keeps sagaId memory (memory.amend owner change) := by
  unfold amend
  split
  · rename_i saga found
    have key : (change saga).sagaId ≠ sagaId := by
      rw [assigns.sagaId, Table.find_key found]
      exact Ne.symm apart
    have same : (memory.active.put (change saga)).find? sagaId = memory.active.find? sagaId := by
      rw [Table.find_put, if_neg key]
    refine ⟨?_, .inl same⟩
    unfold held?
    rw [same]
  · split
    · rename_i saga found
      have key : (change saga).sagaId ≠ sagaId := by
        rw [assigns.sagaId, Table.find_key found]
        exact Ne.symm apart
      refine ⟨?_, .inl rfl⟩
      unfold held?
      rw [Table.find_put, if_neg key]
    · exact .refl memory

theorem labelled_evict (limit : Nat) (rows : List (SagaTransaction Args))
    (known : ∀ saga ∈ rows, saga.tenantId = tenantOf saga.sagaId)
    (labelled : memory.Labelled tenantOf) : (memory.evict limit rows).Labelled tenantOf := by
  induction rows generalizing memory with
  | nil => exact labelled
  | cons saga rest ih =>
      rw [List.forall_mem_cons] at known
      unfold evict
      split
      · exact labelled
      · split
        · apply ih known.2
          refine ⟨fun other member => ?_, labelled_put labelled.2 known.1⟩
          exact labelled.1 other (List.mem_filter.mp member).1
        · exact ih known.2 labelled

/-- By induction on the sagas that the eviction looks at, which are all still
there. -/
theorem keeps_evict (limit : Nat) (rows : List (SagaTransaction Args))
    (distinct : (rows.map (·.sagaId)).Nodup)
    (present : ∀ saga ∈ rows, memory.active.find? saga.sagaId = some saga) :
    Keeps sagaId memory (memory.evict limit rows) := by
  induction rows generalizing memory with
  | nil => exact .refl memory
  | cons saga rest ih =>
      rw [List.map_cons, List.nodup_cons] at distinct
      rw [List.forall_mem_cons] at present
      unfold evict
      split
      · exact .refl memory
      · split
        · rename_i settled
          have dropped : Keeps sagaId memory
              { active := memory.active.erase saga.sagaId, released := memory.released.put saga } := by
            by_cases own : sagaId = saga.sagaId
            · subst own
              constructor
              · unfold held?
                simp [Table.find_erase, present.1]
              · exact .inr ⟨⟨saga, present.1, settled⟩, by simp [Table.find_erase]⟩
            · constructor
              · unfold held?
                simp [Table.find_erase, own, Ne.symm own]
              · exact .inl (by simp [Table.find_erase, own])
          refine dropped.trans (ih distinct.2 fun other member => ?_)
          have apart : other.sagaId ≠ saga.sagaId := by
            intro same
            exact distinct.1 (same ▸ List.mem_map_of_mem member)
          simp [Table.find_erase, apart, present.2 other member]
        · exact ih distinct.2 present.2

theorem labelled_serve {request : MemoryCall Args} (labelled : memory.Labelled tenantOf)
    (own : OwnCall sagaId (tenantOf sagaId) (.memory request)) :
    (request.serve memory).2.Labelled tenantOf := by
  cases request with
  | lookupSaga owner => exact labelled
  | registerSaga saga =>
      obtain rfl : saga.sagaId = sagaId := own.about _ rfl
      exact ⟨labelled_put labelled.1 (own.names _ rfl), labelled.2⟩
  | completedSteps owner => exact labelled
  | appendCompleted owner step => exact labelled_amend (assigns_completed step) labelled owner
  | setStatus owner status => exact labelled_amend (assigns_status status) labelled owner
  | setStatusIfActive owner status =>
      cases found : memory.active.find? owner with
      | none =>
          simp only [MemoryCall.serve, found]
          exact labelled
      | some saga =>
          simp only [MemoryCall.serve, found]
          exact ⟨labelled_put labelled.1 (labelled.1 saga (Table.find_mem found)), labelled.2⟩
  | setPending owner steps => exact labelled_amend (assigns_pending steps) labelled owner
  | evictIfNeeded limit => exact labelled_evict limit _ labelled.1 labelled

theorem keeps_serve {request : MemoryCall Args} {owner : String} (apart : sagaId ≠ owner)
    (own : OwnCall owner tenantId (.memory request)) (memory : Memory Args) :
    Keeps sagaId memory (request.serve memory).2 := by
  cases request with
  | lookupSaga other => exact .refl memory
  | registerSaga saga =>
      have key : saga.sagaId ≠ sagaId := by
        rw [own.about _ rfl]
        exact Ne.symm apart
      have same : (memory.active.put saga).find? sagaId = memory.active.find? sagaId := by
        rw [Table.find_put, if_neg key]
      refine ⟨?_, .inl same⟩
      unfold held?
      rw [MemoryCall.serve, same]
  | completedSteps other => exact .refl memory
  | appendCompleted other step =>
      obtain rfl := own.about _ rfl
      exact keeps_amend (assigns_completed step) apart memory
  | setStatus other status =>
      obtain rfl := own.about _ rfl
      exact keeps_amend (assigns_status status) apart memory
  | setStatusIfActive other status =>
      obtain rfl := own.about _ rfl
      cases found : memory.active.find? other with
      | none =>
          simp only [MemoryCall.serve, found]
          exact .refl memory
      | some saga =>
          have key : saga.sagaId ≠ sagaId := by
            rw [Table.find_key found]
            exact Ne.symm apart
          have same : (memory.active.put { saga with status }).find? sagaId =
              memory.active.find? sagaId := by
            rw [Table.find_put]
            exact if_neg key
          simp only [MemoryCall.serve, found]
          refine ⟨?_, .inl same⟩
          unfold held?
          rw [same]
  | setPending other steps =>
      obtain rfl := own.about _ rfl
      exact keeps_amend (assigns_pending steps) apart memory
  | evictIfNeeded limit =>
      exact keeps_evict limit _ memory.active.distinct fun saga => Table.find_of_mem

end Memory

end Memories

section Stores

variable {sagaId tenantId : String}

/-- Wherever the store names the tenant of a saga, it is the one that the
identity belongs to. -/
structure Store.Labelled (tenantOf : String → String) (store : Store Args) : Prop where
  rows : ∀ row ∈ store.state.rows, ∀ tenant ∈ row.metadata.tenantId, tenant = tenantOf row.sagaId
  letters : ∀ letter ∈ store.dead, ∀ tenant ∈ letter.tenantId, tenant = tenantOf letter.sagaId

/-- All that the store has of a saga. -/
structure Store.Keeps (sagaId : String) (before after : Store Args) : Prop where
  row : after.state.find? sagaId = before.state.find? sagaId
  journal : after.effects sagaId = before.effects sagaId
  keys : after.idem sagaId = before.idem sagaId
  compensations : after.comps sagaId = before.comps sagaId
  history : after.history sagaId = before.history sagaId
  letters : (after.dead.filter fun letter => letter.sagaId = sagaId) =
    before.dead.filter fun letter => letter.sagaId = sagaId

namespace Store

variable {tenantOf : String → String} {store before between after : Store Args}

theorem Keeps.refl (store : Store Args) : Keeps sagaId store store :=
  ⟨rfl, rfl, rfl, rfl, rfl, rfl⟩

theorem Keeps.trans (first : Keeps sagaId before between) (second : Keeps sagaId between after) :
    Keeps sagaId before after where
  row := second.row.trans first.row
  journal := second.journal.trans first.journal
  keys := second.keys.trans first.keys
  compensations := second.compensations.trans first.compensations
  history := second.history.trans first.history
  letters := second.letters.trans first.letters

theorem keeps_put_effect {owner : String} (apart : sagaId ≠ owner) (store : Store Args)
    (effect : Effect Args) : Keeps sagaId store (store.putEffect owner effect) where
  row := rfl
  journal := Function.update_of_ne apart _ _
  keys := rfl
  compensations := rfl
  history := rfl
  letters := rfl

theorem keeps_publish {owner : String} (apart : sagaId ≠ owner) (store : Store Args)
    (key : Option String) : Keeps sagaId store (store.publish owner key) := by
  unfold publish
  split
  · exact ⟨rfl, rfl, Function.update_of_ne apart _ _, rfl, rfl, rfl⟩
  · exact .refl store

variable [DecidableEq Args]

theorem keeps_serve {request : StoreCall Args} {owner : String} (apart : sagaId ≠ owner)
    (own : OwnCall owner tenantId (.store request)) (store : Store Args) :
    Keeps sagaId store (request.serve store).2 := by
  cases request with
  | writeTransactionState other status metadata =>
      obtain rfl := own.about _ rfl
      refine ⟨?_, rfl, rfl, rfl, rfl, rfl⟩
      exact (Store.find_write_state ..).trans (if_neg (Ne.symm apart))
  | prepareEffect other stepId stepName action compensation key =>
      obtain rfl := own.about _ rfl
      rcases store.prepare_effect_cases other stepId stepName action compensation key with
        ⟨_, _, _, same⟩ | ⟨_, same⟩ | ⟨_, _, _, same⟩ <;> rw [StoreCall.serve, same]
      · exact .refl store
      · exact .refl store
      · exact keeps_put_effect apart store _
  | transitionEffect other stepId expected newState result error =>
      obtain rfl := own.about _ rfl
      rcases store.transition_effect_cases other stepId expected newState result error with
        ⟨_, _, _, same⟩ | ⟨_, _, same⟩ <;> rw [StoreCall.serve, same]
      · exact keeps_put_effect apart store _
      · exact .refl store
  | commitEffect other stepId key =>
      obtain rfl := own.about _ rfl
      rcases store.commit_effect_cases other stepId key with
        ⟨_, _, _, same⟩ | ⟨_, _, same⟩ <;> rw [StoreCall.serve, same]
      · exact (keeps_put_effect apart store _).trans (keeps_publish apart _ key)
      · exact .refl store
  | getEffect other stepId => exact .refl store
  | stepAlreadyCommitted other key => exact .refl store
  | markStepCommitted other key =>
      obtain rfl := own.about _ rfl
      exact ⟨rfl, rfl, Function.update_of_ne apart _ _, rfl, rfl, rfl⟩
  | appendCompensation other compensation =>
      obtain rfl := own.about _ rfl
      exact ⟨rfl, rfl, rfl, Function.update_of_ne apart _ _, rfl, rfl⟩
  | pushDeadLetter other stepName error =>
      obtain rfl := own.about _ rfl
      refine ⟨rfl, rfl, rfl, rfl, rfl, ?_⟩
      change List.filter _ (store.dead ++ [_]) = _
      rw [List.filter_append, List.filter_cons_of_neg (by simpa using Ne.symm apart),
        List.filter_nil, List.append_nil]
  | recordStep other entry =>
      obtain rfl := own.about _ rfl
      exact ⟨rfl, rfl, rfl, rfl, Function.update_of_ne apart _ _, rfl⟩
  | listIncomplete => exact .refl store

omit [DecidableEq Args] in
theorem tenant_labelled (labelled : store.Labelled tenantOf) :
    ∀ tenant ∈ store.tenantForSaga sagaId, tenant = tenantOf sagaId := by
  intro tenant named
  obtain ⟨row, found, named⟩ := Option.bind_eq_some_iff.mp named
  rw [labelled.rows row (Table.find_mem found) tenant named, Table.find_key found]

omit [DecidableEq Args] in
theorem labelled_write (labelled : store.Labelled tenantOf) (status : SagaStatus)
    {metadata : Metadata Args} (names : ∀ tenant ∈ metadata.tenantId, tenant = tenantOf sagaId) :
    (store.writeTransactionState sagaId status metadata).Labelled tenantOf where
  rows := by
    intro row member tenant named
    rcases Table.mem_put_rows member with rfl | old
    · have given : metadata.tenantId.or (store.metadata sagaId).tenantId = some tenant := by
        simpa [Metadata.update] using named
      rcases Option.or_eq_some_iff.mp given with new | ⟨_, held⟩
      · exact names tenant new
      · apply tenant_labelled labelled
        unfold Store.metadata at held
        unfold tenantForSaga
        cases found : store.state.find? sagaId with
        | none =>
            rw [found] at held
            cases held
        | some row =>
            rw [found] at held
            exact held
    · exact labelled.rows row old tenant named
  letters := labelled.letters

omit [DecidableEq Args] in
theorem labelled_publish (labelled : store.Labelled tenantOf) (key : Option String) :
    (store.publish sagaId key).Labelled tenantOf := by
  unfold publish
  split
  · exact ⟨labelled.rows, labelled.letters⟩
  · exact labelled

theorem labelled_serve {request : StoreCall Args} (labelled : store.Labelled tenantOf)
    (own : OwnCall sagaId (tenantOf sagaId) (.store request)) :
    (request.serve store).2.Labelled tenantOf := by
  cases request with
  | writeTransactionState owner status metadata =>
      obtain rfl := own.about _ rfl
      exact labelled_write labelled status own.names
  | prepareEffect owner stepId stepName action compensation key =>
      rcases store.prepare_effect_cases owner stepId stepName action compensation key with
        ⟨_, _, _, same⟩ | ⟨_, same⟩ | ⟨_, _, _, same⟩ <;> rw [StoreCall.serve, same]
      · exact labelled
      · exact labelled
      · exact ⟨labelled.rows, labelled.letters⟩
  | transitionEffect owner stepId expected newState result error =>
      rcases store.transition_effect_cases owner stepId expected newState result error with
        ⟨_, _, _, same⟩ | ⟨_, _, same⟩ <;> rw [StoreCall.serve, same]
      · exact ⟨labelled.rows, labelled.letters⟩
      · exact labelled
  | commitEffect owner stepId key =>
      rcases store.commit_effect_cases owner stepId key with
        ⟨_, _, _, same⟩ | ⟨_, _, same⟩ <;> rw [StoreCall.serve, same]
      · apply labelled_publish
        exact ⟨labelled.rows, labelled.letters⟩
      · exact labelled
  | getEffect owner stepId => exact labelled
  | stepAlreadyCommitted owner key => exact labelled
  | markStepCommitted owner key => exact ⟨labelled.rows, labelled.letters⟩
  | appendCompensation owner compensation => exact ⟨labelled.rows, labelled.letters⟩
  | pushDeadLetter owner stepName error =>
      refine ⟨labelled.rows, fun letter member => ?_⟩
      rcases List.mem_append.mp member with old | new
      · exact labelled.letters letter old
      · obtain rfl := List.mem_singleton.mp new
        exact tenant_labelled labelled
  | recordStep owner entry => exact ⟨labelled.rows, labelled.letters⟩
  | listIncomplete => exact labelled

structure Grows (before after : Store Args) : Prop where
  history : ∀ sagaId, before.history sagaId <+: after.history sagaId
  letters : before.dead <+: after.dead

omit [DecidableEq Args] in
theorem Grows.refl (store : Store Args) : Grows store store :=
  ⟨fun _ => List.prefix_rfl, List.prefix_rfl⟩

omit [DecidableEq Args] in
theorem grows_publish (store : Store Args) (key : Option String) :
    Grows store (store.publish sagaId key) := by
  unfold publish
  split
  · exact ⟨fun _ => List.prefix_rfl, List.prefix_rfl⟩
  · exact .refl store

/-- Steps are recorded and letters are pushed behind the others. -/
theorem grows_serve (request : StoreCall Args) (store : Store Args) :
    Grows store (request.serve store).2 := by
  cases request with
  | prepareEffect owner stepId stepName action compensation key =>
      rcases store.prepare_effect_cases owner stepId stepName action compensation key with
        ⟨_, _, _, same⟩ | ⟨_, same⟩ | ⟨_, _, _, same⟩ <;> rw [StoreCall.serve, same]
      · exact .refl store
      · exact .refl store
      · exact ⟨fun _ => List.prefix_rfl, List.prefix_rfl⟩
  | transitionEffect owner stepId expected newState result error =>
      rcases store.transition_effect_cases owner stepId expected newState result error with
        ⟨_, _, _, same⟩ | ⟨_, _, same⟩ <;> rw [StoreCall.serve, same]
      · exact ⟨fun _ => List.prefix_rfl, List.prefix_rfl⟩
      · exact .refl store
  | commitEffect owner stepId key =>
      rcases store.commit_effect_cases owner stepId key with
        ⟨_, _, _, same⟩ | ⟨_, _, same⟩ <;> rw [StoreCall.serve, same]
      · exact ⟨(grows_publish (store.putEffect owner _) key).history,
          (grows_publish (store.putEffect owner _) key).letters⟩
      · exact .refl store
  | pushDeadLetter owner stepName error =>
      exact ⟨fun _ => List.prefix_rfl, List.prefix_append ..⟩
  | recordStep owner entry =>
      refine ⟨fun sagaId => ?_, List.prefix_rfl⟩
      change _ <+: Function.update store.history owner (store.history owner ++ [entry]) sagaId
      by_cases own : sagaId = owner
      · subst own
        rw [Function.update_self]
        exact List.prefix_append ..
      · rw [Function.update_of_ne own]
  | _ => exact ⟨fun _ => List.prefix_rfl, List.prefix_rfl⟩

end Store

end Stores

section Systems

variable {World : Type}

structure System.Labelled (tenantOf : String → String) (system : System Args World) : Prop where
  store : system.store.Labelled tenantOf
  memory : system.memory.Labelled tenantOf

structure System.Keeps (sagaId : String) (before after : System Args World) : Prop where
  store : before.store.Keeps sagaId after.store
  memory : before.memory.Keeps sagaId after.memory

namespace System

variable [DecidableEq Args] {outside : Outside Args World} {tenantOf : String → String}
  {sagaId : String} {request : Call Args} {before after : System Args World}
  {reply : Except PyError request.Answer}

theorem labelled_call (labelled : before.Labelled tenantOf)
    (own : OwnCall sagaId (tenantOf sagaId) request)
    (served : serveCall outside request before reply after) : after.Labelled tenantOf := by
  cases request with
  | memory request =>
      obtain ⟨_, rfl⟩ := served
      exact ⟨labelled.store, Memory.labelled_serve labelled.memory own⟩
  | store request =>
      obtain ⟨_, rfl⟩ := served
      exact ⟨Store.labelled_serve labelled.store own, labelled.memory⟩
  | outside request =>
      obtain ⟨world, _, rfl⟩ := served
      exact ⟨labelled.store, labelled.memory⟩

theorem keeps_call {owner tenantId : String} (apart : sagaId ≠ owner)
    (own : OwnCall owner tenantId request)
    (served : serveCall outside request before reply after) : before.Keeps sagaId after := by
  cases request with
  | memory request =>
      obtain ⟨_, rfl⟩ := served
      exact ⟨.refl _, Memory.keeps_serve apart own _⟩
  | store request =>
      obtain ⟨_, rfl⟩ := served
      exact ⟨Store.keeps_serve apart own _, .refl _⟩
  | outside request =>
      obtain ⟨world, _, rfl⟩ := served
      exact ⟨.refl _, .refl _⟩

theorem grows_call (served : serveCall outside request before reply after) :
    before.store.Grows after.store := by
  cases request with
  | memory request =>
      obtain ⟨_, rfl⟩ := served
      exact .refl _
  | store request =>
      obtain ⟨_, rfl⟩ := served
      exact Store.grows_serve request _
  | outside request =>
      obtain ⟨world, _, rfl⟩ := served
      exact .refl _

end System

end Systems

end SagaMind
