import SagaMind.Coordinator.Cluster
import SagaMind.Coordinator.Outline
import SagaMind.Foundation.Sessions

/-!
# How many sagas stay in memory

Eviction runs where a batch commits and nowhere else. A call that leaves a saga
in a final status on another path, or pauses, is followed by no eviction, so it
has to find no more sagas than the bound admits. What eviction removes is in a
final status always.
-/

namespace SagaMind

open CallProgram KeyedTable Coordinator

set_option autoImplicit false

variable {Args : Type}

/-- At most `limit` sagas are held, or none that could be evicted. -/
def Bounded (limit : Nat) (memory : Memory Args) : Prop :=
  memory.active.rows.length ≤ limit ∨
    ∀ saga ∈ memory.active.rows, Memory.evictable saga.status = false

/-- What is no longer held had come to its end. -/
def DropsFinished (before after : Memory Args) : Prop :=
  ∀ saga ∈ before.active.rows, after.active.find? saga.sagaId = none →
    Memory.evictable saga.status = true

namespace Memory

section Eviction

variable {limit : Nat} {rows : List (SagaTransaction Args)} {memory : Memory Args}

def Listed (rows : List (SagaTransaction Args)) (memory : Memory Args) : Prop :=
  ∀ row ∈ rows, ∀ saga ∈ memory.active.rows, saga.sagaId = row.sagaId → saga = row

theorem listed_self (memory : Memory Args) : Listed memory.active.rows memory := by
  intro row member saga held same
  have found := Table.find_of_mem held
  rw [same, Table.find_of_mem member] at found
  exact (Option.some.inj found).symm

theorem Listed.tail {saga : SagaTransaction Args} (listed : Listed (saga :: rows) memory) :
    Listed rows memory :=
  fun row member => listed row (List.mem_cons_of_mem saga member)

theorem Listed.erase (listed : Listed rows memory) (saga : SagaTransaction Args)
    (released : Table (@SagaTransaction.sagaId Args)) :
    Listed rows ⟨memory.active.erase saga.sagaId, released⟩ :=
  fun row member held kept => listed row member held (List.mem_of_mem_filter kept)

theorem evict_subset (limit : Nat) (rows : List (SagaTransaction Args)) (memory : Memory Args) :
    ∀ saga ∈ (memory.evict limit rows).active.rows, saga ∈ memory.active.rows := by
  induction rows generalizing memory with
  | nil => exact fun saga held => held
  | cons row rest ih =>
      unfold evict
      split
      · exact fun saga held => held
      · split
        · exact fun saga held => List.mem_of_mem_filter (ih _ saga held)
        · exact ih memory

/-- By induction on the rows: above the bound, each row is dropped or still at
work. -/
theorem evict_bounds (listed : Listed rows memory) :
    (memory.evict limit rows).active.rows.length ≤ limit ∨
      ∀ saga ∈ (memory.evict limit rows).active.rows, saga.sagaId ∈ rows.map (·.sagaId) →
        evictable saga.status = false := by
  induction rows generalizing memory with
  | nil => exact .inr fun saga held impossible => nomatch impossible
  | cons row rest ih =>
      unfold evict
      split
      · rename_i few
        exact .inl few
      · split
        · apply (ih (listed.tail.erase row _)).imp_right
          intro others saga held named
          rcases List.mem_cons.mp named with own | later
          · have kept := List.of_mem_filter (evict_subset limit rest _ saga held)
            exact absurd own (of_decide_eq_true kept)
          · exact others saga held later
        · rename_i working
          apply (ih listed.tail).imp_right
          intro others saga held named
          rcases List.mem_cons.mp named with own | later
          · rw [listed row List.mem_cons_self saga (evict_subset limit rest _ saga held) own]
            exact Bool.eq_false_iff.mpr working
          · exact others saga held later

theorem evict_drops_finished (listed : Listed rows memory) :
    DropsFinished memory (memory.evict limit rows) := by
  induction rows generalizing memory with
  | nil =>
      intro saga held gone
      rw [evict, Table.find_of_mem held] at gone
      cases gone
  | cons row rest ih =>
      intro saga held
      unfold evict
      split
      · intro gone
        rw [Table.find_of_mem held] at gone
        cases gone
      · split
        · rename_i finished
          intro gone
          by_cases own : saga.sagaId = row.sagaId
          · rw [listed row List.mem_cons_self saga held own]
            exact finished
          · exact ih (listed.tail.erase row _) saga
              (List.mem_filter.mpr ⟨held, decide_eq_true own⟩) gone
        · exact ih listed.tail saga held

theorem evict_bounded (limit : Nat) (memory : Memory Args) :
    Bounded limit (memory.evict limit memory.active.rows) := by
  apply (evict_bounds (listed_self memory)).imp_right
  intro others saga held
  exact others saga held (List.mem_map_of_mem (evict_subset limit _ memory saga held))

end Eviction

section Fields

variable {memory : Memory Args} {sagaId : String}
  {change : SagaTransaction Args → SagaTransaction Args}

theorem length_amend (keeps : ∀ saga, (change saga).sagaId = saga.sagaId) :
    (memory.amend sagaId change).active.rows.length = memory.active.rows.length := by
  unfold amend
  split
  · rename_i saga found
    apply Table.length_put_known
    rw [keeps]
    exact List.mem_map_of_mem (Table.find_mem found)
  · split <;> rfl

theorem mem_amend (keeps : ∀ saga, (change saga).sagaId = saga.sagaId) {saga : SagaTransaction Args}
    (held : saga ∈ (memory.amend sagaId change).active.rows) :
    (saga ∈ memory.active.rows ∧ saga.sagaId ≠ sagaId) ∨
      ∃ old ∈ memory.active.rows, saga = change old := by
  cases found : memory.active.find? sagaId with
  | some old =>
      have amended : (memory.amend sagaId change).active = memory.active.put (change old) := by
        unfold amend
        rw [found]
      rw [amended] at held
      have stored := Table.find_of_mem held
      rw [Table.find_put, keeps, Table.find_key found] at stored
      split at stored
      · exact .inr ⟨old, Table.find_mem found, (Option.some.inj stored).symm⟩
      · rename_i apart
        exact .inl ⟨Table.find_mem stored, Ne.symm apart⟩
  | none =>
      have same : (memory.amend sagaId change).active = memory.active := by
        unfold amend
        rw [found]
        dsimp only
        split <;> rfl
      rw [same] at held
      exact .inl ⟨held, Table.find_none_iff.mp found saga held⟩

/-- The bound outlasts an assignment after which the saga is not at its end. -/
theorem bounded_amend {limit : Nat} (keeps : ∀ saga, (change saga).sagaId = saga.sagaId)
    (before : memory.active.rows.length ≤ limit ∨
      (∀ saga ∈ memory.active.rows, saga.sagaId ≠ sagaId → evictable saga.status = false) ∧
        ∀ old ∈ memory.active.rows, evictable (change old).status = false) :
    Bounded limit (memory.amend sagaId change) := by
  rcases before with few | ⟨others, own⟩
  · exact .inl ((length_amend keeps).trans_le few)
  · right
    intro saga held
    rcases mem_amend keeps held with ⟨kept, apart⟩ | ⟨old, known, rfl⟩
    · exact others saga kept apart
    · exact own old known

/-- Nothing that is held is lost by an assignment to its fields. -/
theorem amend_drops_finished : DropsFinished memory (memory.amend sagaId change) := by
  intro saga held gone
  have known := Table.find_of_mem held
  unfold amend at gone
  split at gone
  · rename_i old found
    rw [Table.find_put, known] at gone
    split at gone <;> cases gone
  · split at gone
    · rw [known] at gone
      cases gone
    · rw [known] at gone
      cases gone

end Fields

end Memory

/-- The specification of a memory call, as far as it drops sagas. -/
theorem serve_drops_finished (request : MemoryCall Args) (memory : Memory Args) :
    DropsFinished memory (request.serve memory).2 := by
  have kept : DropsFinished memory memory := by
    intro saga held gone
    rw [Table.find_of_mem held] at gone
    cases gone
  have put (saga : SagaTransaction Args) :
      DropsFinished memory { memory with active := memory.active.put saga } := by
    intro other held gone
    rw [Table.find_put, Table.find_of_mem held] at gone
    split at gone <;> cases gone
  cases request with
  | lookupSaga sagaId => exact kept
  | registerSaga saga => exact put saga
  | completedSteps sagaId => exact kept
  | appendCompleted sagaId step => exact Memory.amend_drops_finished
  | setStatus sagaId status => exact Memory.amend_drops_finished
  | setStatusIfActive sagaId status =>
      simp only [MemoryCall.serve]
      split
      · exact put _
      · exact kept
  | setPending sagaId steps => exact Memory.amend_drops_finished
  | evictIfNeeded limit => exact Memory.evict_drops_finished (Memory.listed_self memory)

section Calls

/-- A coordinator whose store, verifier and sandbox may answer or raise
anything. -/
def remembering : Machine (coordinatorFace Args) (Memory Args) where
  allowed := fun _ _ => True
  step := fun request before reply after => match request, reply with
    | .memory request, reply =>
        reply = .ok (request.serve before).1 ∧ after = (request.serve before).2
    | .store _, _ => after = before
    | .outside _, _ => after = before

theorem remembering_drops_finished {request : Call Args} {before after : Memory Args}
    {reply : Except PyError request.Answer} (taken : remembering.step request before reply after) :
    DropsFinished before after := by
  have kept : DropsFinished before before := by
    intro saga held gone
    rw [Table.find_of_mem held] at gone
    cases gone
  rcases request with request | request | request
  · obtain ⟨-, rfl⟩ := taken
    exact serve_drops_finished request before
  · obtain rfl := taken
    exact kept
  · obtain rfl := taken
    exact kept

/-- A saga ends outside of a commit, or pauses, only while no eviction is due. -/
def Timely (limit : Nat) : Call Args → Memory Args → Prop
  | .memory (.setStatusIfActive _ _), memory => memory.active.rows.length ≤ limit
  | .memory (.setStatus sagaId .awaitingApproval), memory =>
      memory.active.rows.length ≤ limit ∨ ∀ saga ∈ memory.active.rows, saga.sagaId ≠ sagaId →
        Memory.evictable saga.status = false
  | _, _ => True

abbrev timely (limit : Nat) : Machine (coordinatorFace Args) (Memory Args) :=
  remembering.limit (Timely limit)

variable {limit : Nat} {memory : Memory Args}

theorem anyhow {Err Value : Type} (program : Program (coordinatorFace Args) Err Value) :
    wp (timely limit) program (fun _ _ => True) (fun _ _ => True) memory :=
  conforms_free (fun _ _ => trivial) program memory

theorem wp_remember {request : MemoryCall Args} {post : request.Answer → Memory Args → Prop}
    {failed : PyError → Memory Args → Prop}
    (done : Timely limit (.memory request) memory →
      post (request.serve memory).1 (request.serve memory).2) :
    wp (timely limit) (onMemory request) post failed memory := by
  rw [onMemory, wp_perform]
  refine ⟨trivial, ?_⟩
  rintro reply after ⟨permitted, rfl, rfl⟩
  exact done permitted

theorem wp_store {request : StoreCall Args} {inv : Memory Args → Prop} (here : inv memory) :
    wp (timely limit) (onStore request) (fun _ => inv) (fun _ => inv) memory := by
  rw [onStore, wp_perform]
  refine ⟨trivial, ?_⟩
  rintro reply after ⟨-, rfl⟩
  cases reply with
  | ok answer => exact here
  | error fault => exact here

theorem wp_stored {request : StoreCall Args} {inv : Memory Args → Prop} (here : inv memory) :
    wp (timely limit) (onStore request) (fun _ => inv) (fun _ _ => True) memory :=
  wp_mono (wp_store here) (fun _ _ kept => kept) fun _ _ _ => trivial

theorem wp_written {self : Coordinator} {sagaId : String} {status : SagaStatus}
    {metadata : Metadata Args} {inv : Memory Args → Prop} (here : inv memory) :
    wp (timely limit) (self.writeStatus sagaId status metadata) (fun _ => inv) (fun _ _ => True)
      memory := by
  unfold writeStatus
  rw [wp_ite]
  split
  · exact wp_stored here
  · exact here

end Calls

section Batches

variable {self : Coordinator} {sagaId : String} {memory : Memory Args}

def Few (limit : Nat) (memory : Memory Args) : Prop := memory.active.rows.length ≤ limit

theorem clerical_few {limit : Nat} {request : Call Args} {before after : Memory Args}
    {reply : Except PyError request.Answer} (clerical : Clerical sagaId request)
    (few : Few limit before) (taken : (timely limit).step request before reply after) :
    Few limit after := by
  rcases request with request | request | request
  · obtain ⟨-, -, rfl⟩ := taken
    cases request with
    | appendCompleted owner step =>
        have same : (before.amend owner fun saga =>
            { saga with completedSteps := saga.completedSteps ++ [step] }).active.rows.length =
              before.active.rows.length :=
          Memory.length_amend fun _ => rfl
        exact same.trans_le few
    | _ => exact clerical.elim
  · obtain ⟨-, rfl⟩ := taken
    exact few
  · obtain ⟨-, rfl⟩ := taken
    exact few

theorem ended_few {limit : Nat} {status : SagaStatus} :
    wp (timely limit) (onMemory (.setStatusIfActive sagaId status)) (fun _ => Few limit)
      (fun _ _ => True) memory := by
  apply wp_remember
  intro (few : memory.active.rows.length ≤ limit)
  simp only [MemoryCall.serve]
  split
  · rename_i saga found
    have known : saga.sagaId ∈ memory.active.rows.map (·.sagaId) :=
      List.mem_map_of_mem (Table.find_mem found)
    have same : (memory.active.put { saga with status }).rows.length = memory.active.rows.length :=
      Table.length_put_known known
    exact same.trans_le few
  · exact few

theorem failed_few {limit : Nat} {step : SagaStep Args} {error : String} :
    wp (timely limit) (self.handleCompensationFailure sagaId step error) (fun _ => Few limit)
      (fun _ _ => True) memory := by
  unfold handleCompensationFailure
  apply wp_seq ended_few
  intro _ between few
  rw [wp_ite]
  split
  · apply wp_seq (wp_stored few)
    intro _ between few
    rw [wp_bind]
    apply wp_unfailing (wp_record_failure (fun _ _ _ _ => trivial)
      (fun _ _ _ _ clerical few taken => clerical_few clerical few taken) few)
    exact fun _ _ few => wp_stored few
  · exact few

def retreating (self : Coordinator) (sagaId : String) (limit : Nat) :
    Retreat (@timely Args limit) self sagaId where
  falling := fun _ => True
  rolling := fun _ _ => True
  undone := Few limit
  broken := fun _ => True
  enters := fun _ => anyhow _
  undoes := fun {step rest state} _ => by
    have turn : wp (@timely Args limit) (self.undoStep sagaId step)
        (fun goOn after => if goOn then True else Few limit after) (fun _ _ => True) state :=
      wp_undo_step (fun _ _ => anyhow _) (fun _ => failed_few) (fun _ => trivial) trivial
    exact turn
  closes := fun _ => by
    unfold closeRollback
    exact wp_seq ended_few fun _ _ few => wp_written few

theorem quarantine_few {limit : Nat} {step : SagaStep Args} (few : Few limit memory) :
    wp (timely limit) (quarantineStep sagaId step) (fun _ => Few limit) (fun _ _ => True)
      memory := by
  have reports (stepName error : String) {between : Memory Args} (few : Few limit between) :
      wp (timely limit) (deadLetterRecovery sagaId stepName error) (fun _ => Few limit)
        (fun _ _ => True) between := by
    unfold deadLetterRecovery
    exact wp_seq (wp_stored few) fun _ _ few => wp_stored few
  unfold quarantineStep
  dsimp only
  rw [wp_bind, wp_attempt, wp_bind]
  apply wp_mono (wp_store few)
  · exact fun _ _ few => reports _ _ few
  · exact fun _ _ few => reports _ _ few

theorem fails_few (self : Coordinator) {limit : Nat} (step : SagaStep Args) (fault : StepFault) :
    wp (timely limit) (self.failStep sagaId step fault) (fun _ => Few limit) (fun _ _ => True)
      memory := by
  apply fail_step_rule (Few limit) ((retreating self sagaId limit).execute_compensations trivial)
  · exact fun few _ _ => quarantine_few few
  · exact fun few _ => few

/-- A pause changes no other saga, and its own is not at its end. -/
theorem pause_bounded [DecidableEq Args] (self : Coordinator) {limit : Nat}
    (steps : List (SagaStep Args)) (step : SagaStep Args) :
    wp (timely limit) (self.awaitApproval sagaId steps step) (fun _ => Bounded limit)
      (fun _ _ => True) memory := by
  have paused : wp (timely limit) (onMemory (.setStatus sagaId .awaitingApproval))
      (fun _ => Bounded limit) (fun _ _ => True) memory := by
    apply wp_remember
    intro permitted
    simp only [MemoryCall.serve]
    exact Memory.bounded_amend (fun _ => rfl) (permitted.imp_right fun others => ⟨others, fun _ _ => rfl⟩)
  have listed (pending : List (SagaStep Args)) {between : Memory Args}
      (bounded : Bounded limit between) :
      wp (timely limit) (onMemory (.setPending sagaId pending)) (fun _ => Bounded limit)
        (fun _ _ => True) between := by
    apply wp_remember
    intro _
    simp only [MemoryCall.serve]
    exact Memory.bounded_amend (fun _ => rfl)
      (bounded.imp_right fun others => ⟨fun saga held _ => others saga held, others⟩)
  unfold awaitApproval
  apply wp_seq paused
  intro _ between bounded
  dsimp only
  exact wp_seq (listed _ bounded) fun _ _ bounded => wp_written bounded

theorem commit_bounded (self : Coordinator) :
    wp (timely self.maxActiveSagas) (self.closeBatch sagaId)
      (fun _ => Bounded self.maxActiveSagas) (fun _ _ => True) memory := by
  unfold closeBatch
  apply wp_seq (anyhow _)
  intro _ between _
  apply wp_seq (anyhow _)
  exact fun _ last _ => wp_remember fun _ => Memory.evict_bounded _ last

variable [DecidableEq Args] [Inhabited Args]

theorem execute_steps_bounded (self : Coordinator) (before steps : List (SagaStep Args)) :
    wp (timely self.maxActiveSagas) (self.executeSteps sagaId before steps)
      (fun _ => Bounded self.maxActiveSagas) (fun _ _ => True) memory := by
  apply execute_steps_rule (fun _ _ _ => True) fun _ _ _ _ => True
  case closes => exact fun _ => commit_bounded self
  case asks =>
    intro before step rest state _
    apply wp_mono (anyhow _)
    · exact fun skip between _ => by split <;> trivial
    · exact fun _ _ stopped => stopped
  case attempts =>
    intro before step rest state _
    have fallen {between : Memory Args} (fault : StepFault) :
        wp (timely self.maxActiveSagas)
          (self.failStep sagaId { step with status := .running } fault)
          (fun _ => Bounded self.maxActiveSagas) (fun _ _ => True) between :=
      wp_mono (fails_few self _ fault) (fun _ _ few => .inl few) fun _ _ stopped => stopped
    apply attempt_step_rule (fun _ => True) (fun _ => True) fun _ => True
    case verifies =>
      apply wp_mono (anyhow _)
      · exact fun verdict between _ => by split <;> trivial
      · exact fun _ _ _ => fallen _
    case checks => exact fun _ => wp_mono (anyhow _) (fun _ _ _ => trivial) fun _ _ _ => fallen _
    case waits =>
      exact fun _ _ _ => wp_mono (pause_bounded self _ _) (fun _ _ bounded => bounded)
        fun _ _ _ => fallen _
    case executes => exact fun _ _ => wp_mono (anyhow _) (fun _ _ _ => trivial) fun _ _ _ => fallen _
    case retreats =>
      exact fun _ => wp_mono ((retreating self sagaId _).execute_compensations trivial)
        (fun _ _ few => .inl few) fun _ _ _ => fallen _
  case here => trivial

theorem execute_saga_bounded (self : Coordinator) (steps : List (SagaStep Args)) :
    wp (timely self.maxActiveSagas) (self.executeSaga sagaId steps)
      (fun _ => Bounded self.maxActiveSagas) (fun _ _ => True) memory := by
  unfold executeSaga
  apply wp_seq (anyhow _)
  intro saga between _
  rw [wp_ite]
  split
  · exact execute_steps_bounded self [] steps
  · trivial

theorem resume_bounded (self : Coordinator) :
    wp (timely self.maxActiveSagas) (self.resumeAfterApproval sagaId)
      (fun _ => Bounded self.maxActiveSagas) (fun _ _ => True) memory := by
  unfold resumeAfterApproval
  apply wp_seq (anyhow _)
  intro saga between _
  cases saga with
  | none => trivial
  | some saga =>
      dsimp only
      rw [wp_ite]
      split
      · trivial
      · apply wp_seq (anyhow _)
        intro _ between _
        apply wp_seq (anyhow _)
        intro _ between _
        apply wp_seq (anyhow _)
        exact fun _ _ _ => execute_saga_bounded self _

omit [DecidableEq Args] [Inhabited Args] in
theorem reject_bounded (self : Coordinator) :
    wp (timely self.maxActiveSagas) (self.rejectPending sagaId)
      (fun _ => Bounded self.maxActiveSagas) (fun _ _ => True) memory := by
  unfold rejectPending
  apply wp_seq (anyhow _)
  intro saga between _
  cases saga with
  | none => trivial
  | some saga =>
      dsimp only
      rw [wp_ite]
      split
      · trivial
      · apply wp_seq (anyhow _)
        intro _ between _
        apply wp_seq (anyhow _)
        intro _ between _
        apply wp_seq ((retreating self sagaId _).execute_compensations trivial)
        exact fun _ _ few => .inl few

end Batches

section Runs

variable [DecidableEq Args] [Inhabited Args]

/-- A call of `execute_saga`, `resume_after_approval` or `reject_pending`. -/
def ApiCall.worksOnBatch : ApiCall Args → Bool
  | .execute .. | .resume _ | .reject _ => true
  | _ => false

/-- The states between starts, batches, approvals and rejections, made one after
the other. -/
abbrev Workload (self : Coordinator) : Memory Args → Prop :=
  Sessions (fun _ : Unit => remembering)
    (fun _ _ program => ∃ request : ApiCall Args, request ≠ .recover ∧ program = request.program self)
    .empty

/-- Whatever is in memory, a batch call that is timely returns to a bounded one,
and no call of the coordinator drops a saga that has not ended. -/
theorem retention_bounded_when_timely (self : Coordinator) (before : Memory Args)
    (request : ApiCall Args) :
    (request.worksOnBatch = true → ∀ after,
      Steps (timely self.maxActiveSagas) (request.program self) before (.done ()) after →
        Bounded self.maxActiveSagas after) ∧
    ∀ call next between reply after,
      Steps remembering (request.program self) before (.call call next) between →
        remembering.step call between reply after → DropsFinished between after := by
  constructor
  · intro batch after taken
    have run : wp (timely self.maxActiveSagas) (request.program self)
        (fun _ => Bounded self.maxActiveSagas) (fun _ _ => True) before := by
      cases request with
      | start sagaId goal tenantId => cases batch
      | execute sagaId steps => exact (wp_void _ _ _ _).mpr (execute_saga_bounded self steps)
      | resume sagaId => exact (wp_void _ _ _ _).mpr (resume_bounded self)
      | reject sagaId => exact (wp_void _ _ _ _).mpr (reject_bounded self)
      | recover => cases batch
    exact wp_steps run taken
  · exact fun call next between reply after _ taken => remembering_drops_finished taken

end Runs

section Example

def narrow : Coordinator where
  store := .absent
  maxActiveSagas := 1

def unavailable : (request : Call Unit) → Memory Unit → Except PyError request.Answer × Memory Unit
  | .memory request, memory => (.ok (request.serve memory).1, (request.serve memory).2)
  | .store _, memory => (.error (.external "unavailable"), memory)
  | .outside _, memory => (.error (.external "unavailable"), memory)

theorem unavailable_honest (request : Call Unit) (memory : Memory Unit) :
    remembering.step request memory (unavailable request memory).1 (unavailable request memory).2 := by
  rcases request with request | request | request
  · exact ⟨rfl, rfl⟩
  · rfl
  · rfl

def served (request : ApiCall Unit) (memory : Memory Unit) :
    Program (coordinatorFace Unit) PyError Unit × Memory Unit :=
  simulate unavailable 20 (request.program narrow) memory

theorem served_steps {request : ApiCall Unit} {memory : Memory Unit}
    (returned : (served request memory).1.outcome? = some (.ok ())) :
    Steps remembering (request.program narrow) memory (.done ()) (served request memory).2 := by
  have steps : Steps remembering (request.program narrow) memory (served request memory).1
      (served request memory).2 := simulate_steps unavailable_honest 20 _ _
  rw [Program.outcome_ended returned] at steps
  exact steps

theorem served_workload {request : ApiCall Unit} (listed : request ≠ .recover) {memory : Memory Unit}
    (reached : Workload narrow memory)
    (returned : (served request memory).1.outcome? = some (.ok ())) :
    Workload narrow (served request memory).2 :=
  @Sessions.session _ _ _ Unit _ _ _ _ _ () _ _ _ reached ⟨request, listed, rfl⟩ (served_steps returned) rfl

def oneStarted : Memory Unit := (served (.start "s" "" "") .empty).2

def twoStarted : Memory Unit := (served (.start "t" "" "") oneStarted).2

theorem one_started : Workload narrow oneStarted := served_workload (by simp) .start rfl

theorem two_started : Workload narrow twoStarted := served_workload (by simp) one_started rfl

/-- A batch that commits while two are held. -/
theorem commit_is_bounded : Bounded 1 (served (.execute "s" []) twoStarted).2 := by
  have timelySteps : Steps (timely 1) ((ApiCall.execute "s" []).program narrow) twoStarted (.done ())
      (served (.execute "s" []) twoStarted).2 :=
    .call ⟨trivial, unavailable_honest _ _⟩ (.call ⟨trivial, unavailable_honest _ _⟩
      (.call ⟨trivial, unavailable_honest _ _⟩ .here))
  exact (retention_bounded_when_timely narrow twoStarted (.execute "s" [])).1 rfl _ timelySteps

/-- A batch that is rolled back is followed by no eviction. -/
theorem rollback_overfills : ¬∀ (self : Coordinator) (before after : Memory Unit)
    (request : ApiCall Unit), Workload self before → request ≠ .recover →
    request.worksOnBatch = true → Steps remembering (request.program self) before (.done ()) after →
    Bounded self.maxActiveSagas after := by
  intro bounded
  have overfull := bounded narrow twoStarted _ (.execute "s" [sampleStep "a" none]) two_started
    (by simp) rfl (served_steps rfl)
  rcases overfull with few | working
  · exact absurd few (by decide)
  · exact absurd (working _ List.mem_cons_self) (by decide)

end Example

end SagaMind
