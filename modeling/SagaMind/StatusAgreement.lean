import SagaMind.Coordinator.Lifetime
import SagaMind.Coordinator.Turns

/-!
# Memory and store agree on the status

Every branch of the coordinator assigns a status to the saga it holds and writes
one to the store. The two assignments differ in one place: a step of unknown
outcome is quarantined after the rollback, and quarantine writes to the store
alone. Unless it follows a rollback that failed, memory keeps `ROLLED_BACK`.
-/

namespace SagaMind.StatusAgreement

open CallProgram KeyedTable Coordinator

set_option autoImplicit false

variable {Args : Type}

/-- What `get_saga_status` reports of a held saga is what the store has. -/
def Agrees (state : System Args Unit) : Prop :=
  ∀ sagaId saga, state.memory.active.find? sagaId = some saga →
    state.store.status? sagaId = some saga.status

def quarantinesFailed : Call Args → System Args Unit → Bool
  | .store (.transitionEffect sagaId _ _ .ambiguous _ _), state =>
      (state.memory.active.find? sagaId).all fun saga => saga.status = .compensationFailed
  | _, _ => true

def AgreesBeside (sagaId : String) (state : System Args Unit) : Prop :=
  ∀ other entry, other ≠ sagaId → posted state.memory other = some entry →
    state.store.status? other = some entry.1

structure Posting (sagaId : String) (status : SagaStatus) (state : System Args Unit) : Prop where
  beside : AgreesBeside sagaId state
  given : ∀ entry, posted state.memory sagaId = some entry → entry.1 = status

section StateFacts

variable {sagaId : String} {status : SagaStatus} {state : System Args Unit}

theorem agrees_iff : Agrees state ↔
    ∀ sagaId entry, posted state.memory sagaId = some entry →
      state.store.status? sagaId = some entry.1 := by
  constructor
  · intro agrees sagaId entry found
    obtain ⟨saga, held, rfl⟩ := Option.map_eq_some_iff.mp found
    exact agrees sagaId saga held
  · intro agrees sagaId saga held
    apply agrees sagaId (saga.status, saga.pendingSteps)
    unfold posted
    rw [held]
    rfl

theorem Agrees.beside (agrees : Agrees state) : AgreesBeside sagaId state :=
  fun other entry _ found => agrees_iff.mp agrees other entry found

theorem Posting.written (posting : Posting sagaId status state) (metadata : Metadata Args) :
    Agrees { state with store := state.store.writeTransactionState sagaId status metadata } := by
  rw [agrees_iff]
  intro other entry found
  dsimp only at found ⊢
  rw [Store.status_write_state]
  split
  · rename_i own
    subst own
    rw [posting.given entry found]
  · rename_i apart
    exact posting.beside other entry (Ne.symm apart) found

theorem AgreesBeside.written (beside : AgreesBeside sagaId state) (metadata : Metadata Args) :
    AgreesBeside sagaId
      { state with store := state.store.writeTransactionState sagaId status metadata } := by
  intro other entry apart found
  dsimp only at found ⊢
  rw [Store.status_write_state, if_neg (Ne.symm apart)]
  exact beside other entry apart found

theorem AgreesBeside.posting (beside : AgreesBeside sagaId state) {memory : Memory Args}
    (assigned : ∀ other, posted memory other = (posted state.memory other).map fun entry =>
      if sagaId = other then (status, entry.2) else entry) :
    Posting sagaId status { state with memory } := by
  constructor
  · intro other entry apart found
    dsimp only at found
    rw [assigned] at found
    obtain ⟨old, held, rfl⟩ := Option.map_eq_some_iff.mp found
    rw [if_neg (Ne.symm apart)]
    exact beside other old apart held
  · intro entry found
    dsimp only at found
    rw [assigned] at found
    obtain ⟨old, held, rfl⟩ := Option.map_eq_some_iff.mp found
    rw [if_pos rfl]

theorem AgreesBeside.pending (beside : AgreesBeside sagaId state) (steps : List (SagaStep Args)) :
    AgreesBeside sagaId
      { state with memory := ((MemoryCall.setPending sagaId steps).serve state.memory).2 } := by
  intro other entry apart found
  dsimp only at found
  rw [posted_set_pending] at found
  obtain ⟨old, held, rfl⟩ := Option.map_eq_some_iff.mp found
  rw [if_neg (Ne.symm apart)]
  exact beside other old apart held

theorem Posting.pending (posting : Posting sagaId status state) (steps : List (SagaStep Args)) :
    Posting sagaId status
      { state with memory := ((MemoryCall.setPending sagaId steps).serve state.memory).2 } := by
  constructor
  · exact posting.beside.pending steps
  · intro entry found
    dsimp only at found
    rw [posted_set_pending] at found
    obtain ⟨old, held, rfl⟩ := Option.map_eq_some_iff.mp found
    rw [if_pos rfl]
    exact posting.given old held

theorem Agrees.evicted (agrees : Agrees state) (limit : Nat) (sagas : List (SagaTransaction Args)) :
    Agrees { state with memory := state.memory.evict limit sagas } := by
  rw [agrees_iff] at agrees ⊢
  intro other entry found
  exact agrees other entry (posted_evict limit sagas state.memory other entry found)

theorem filed_agrees {before after : System Args Unit} (filed : Filed before after)
    (agrees : Agrees before) : Agrees after := by
  rw [agrees_iff] at agrees ⊢
  intro other entry found
  rw [filed.posted] at found
  unfold Store.status?
  rw [filed.state]
  exact agrees other entry found

theorem filed_beside {before after : System Args Unit} (filed : Filed before after)
    (beside : AgreesBeside sagaId before) : AgreesBeside sagaId after := by
  intro other entry apart found
  rw [filed.posted] at found
  unfold Store.status?
  rw [filed.state]
  exact beside other entry apart found

end StateFacts

section Batches

variable [DecidableEq Args] {self : Coordinator} {sagaId : String} {status : SagaStatus}
  {state : System Args Unit} {metadata : Metadata Args}
  {post : Unit → System Args Unit → Prop} {failed : PyError → System Args Unit → Prop}

/-- Runs in which a step is quarantined only after a rollback that failed. -/
abbrev Careful (request : Call Args) (state : System Args Unit) : Prop :=
  quarantinesFailed request state = true

abbrev careful : Machine (coordinatorFace Args) (System Args Unit) := running.limit Careful

theorem serves_careful : Serves anyone (careful : Machine (coordinatorFace Args) _) :=
  fun taken => taken.2

theorem wp_post {request : MemoryCall Args}
    {post : request.Answer → System Args Unit → Prop} (beside : AgreesBeside sagaId state)
    (assigns : ∀ other, posted (request.serve state.memory).2 other =
      (posted state.memory other).map fun entry =>
        if sagaId = other then (status, entry.2) else entry)
    (done : ∀ answer after, Posting sagaId status after → post answer after) :
    wp careful (onMemory request) post failed state := by
  apply wp_served_memory serves_careful trivial
  apply done
  exact beside.posting assigns

theorem wp_write (stored : self.hasStore = true) (posting : Posting sagaId status state)
    (done : ∀ after, Agrees after → post () after) :
    wp careful (self.writeStatus sagaId status metadata) post failed state := by
  unfold writeStatus
  rw [if_pos stored]
  apply wp_served_store serves_careful trivial
  apply done
  exact posting.written metadata

theorem wp_write_beside (stored : self.hasStore = true) (beside : AgreesBeside sagaId state)
    (done : ∀ after, AgreesBeside sagaId after → post () after) :
    wp careful (self.writeStatus sagaId status metadata) post failed state := by
  unfold writeStatus
  rw [if_pos stored]
  apply wp_served_store serves_careful trivial
  apply done
  exact beside.written metadata

theorem wp_letter {stepName error : String} (agrees : Agrees state)
    (done : ∀ after, Agrees after → post () after) :
    wp careful (onStore (.pushDeadLetter sagaId stepName error)) post failed state := by
  apply wp_served_store serves_careful trivial
  apply done
  exact agrees

theorem wp_clerk_beside {Value : Type} {action : Action Args Value}
    (uses : Uses (Clerical sagaId) action) (beside : AgreesBeside sagaId state) :
    wp careful action (fun _ => AgreesBeside sagaId) (fun _ => AgreesBeside sagaId) state := by
  apply wp_clerical _ _ uses beside
  · exact fun _ _ _ _ => trivial
  · exact clerical_keeps serves_careful filed_beside

theorem wp_clerk {Value : Type} {action : Action Args Value}
    (uses : Uses (Clerical sagaId) action) (agrees : Agrees state) :
    wp careful action (fun _ => Agrees) (fun _ => Agrees) state := by
  apply wp_clerical _ _ uses agrees
  · exact fun _ _ _ _ => trivial
  · exact clerical_keeps serves_careful filed_agrees

theorem wp_handle_failure (stored : self.hasStore = true) {step : SagaStep Args} {error : String}
    (beside : AgreesBeside sagaId state) :
    wp careful (self.handleCompensationFailure sagaId step error) (fun _ => Agrees)
      (fun _ _ => False) state := by
  have recorded : ∀ {between : System Args Unit}, Agrees between →
      wp careful (self.recordCompensationFailure sagaId step.stepId error) (fun _ => Agrees)
        (fun _ _ => False) between := by
    intro between agrees
    apply wp_record_failure _ _ agrees
    · exact fun _ _ _ _ => trivial
    · exact clerical_keeps serves_careful filed_agrees
  unfold handleCompensationFailure
  rw [wp_bind]
  apply wp_post beside
  · exact fun other => posted_set_status_if_active _ _ other .compensationFailed
  · intro _ between posting
    rw [if_pos stored, wp_bind]
    apply wp_served_store serves_careful trivial
    rw [StoreCall.serve, replied_ok, wp_bind]
    apply wp_mono (recorded (posting.written _))
    · exact fun _ _ agrees => wp_letter agrees fun _ agrees => agrees
    · exact fun _ _ impossible => impossible

/-- Quarantine writes to the store alone, where memory says the same. -/
theorem wp_quarantine {step : SagaStep Args} (agrees : Agrees state) :
    wp careful (quarantineStep sagaId step) (fun _ => Agrees) (fun _ _ => False) state := by
  have letters : ∀ (stepName : String) {between : System Args Unit},
      Posting sagaId .compensationFailed between →
      wp careful (deadLetterRecovery sagaId stepName
        "forward effect raised before its outcome was durably recorded") (fun _ => Agrees)
        (fun _ _ => False) between := by
    intro stepName between posting
    unfold deadLetterRecovery
    rw [wp_bind]
    apply wp_served_store serves_careful trivial
    rw [StoreCall.serve, replied_ok]
    exact wp_letter (posting.written _) fun _ agrees => agrees
  have filed : ∀ {before after : System Args Unit}, Filed before after →
      Posting sagaId .compensationFailed before → Posting sagaId .compensationFailed after := by
    intro before after filed posting
    constructor
    · exact filed_beside filed posting.beside
    · intro entry found
      rw [filed.posted] at found
      exact posting.given entry found
  unfold quarantineStep
  rw [wp_bind, wp_attempt, wp_bind]
  apply wp_limit_perform trivial
  intro permitted
  have posting : Posting sagaId .compensationFailed state := by
    constructor
    · exact agrees.beside
    · intro entry found
      obtain ⟨saga, held, rfl⟩ := Option.map_eq_some_iff.mp found
      have marked : (state.memory.active.find? sagaId).all
          (fun saga => saga.status = .compensationFailed) = true := permitted
      rw [held, Option.all_some] at marked
      exact of_decide_eq_true marked
  have records : wp running (onStore (.transitionEffect sagaId step.stepId [.executing] .ambiguous
      none (some "forward effect raised before its outcome was durably recorded")))
      (fun _ => Posting sagaId .compensationFailed)
      (fun _ => Posting sagaId .compensationFailed) state := by
    apply wp_clerical _ _ clerical_transition posting
    · exact fun _ _ _ _ => trivial
    · exact clerical_keeps serves_running filed
  apply wp_mono records
  · exact fun effect between posting => letters _ posting
  · exact fun error between posting => letters _ posting

def agreement [Inhabited Args] (stored : self.hasStore = true) (sagaId : String) :
    Outline (careful : Machine (coordinatorFace Args) _) self sagaId where
  queue := fun _ => True
  working := Agrees
  falling := AgreesBeside sagaId
  rolling := fun _ => AgreesBeside sagaId
  undone := Agrees
  finished := Agrees
  restatus := fun _ _ => trivial
  moves := fun _ => trivial
  falls := Agrees.beside
  ends := id
  rests := id
  asks := fun uses agrees => wp_clerk (enquiry_clerical sagaId uses) agrees
  executes := by
    intro step rest state _ _ agrees
    apply wp_mono (wp_performs _ _ agrees)
    · exact fun _ _ reached => reached
    · exact fun _ _ agrees => agrees.beside
    · exact fun _ _ _ _ => trivial
    · exact performs_keeps serves_careful filed_agrees
  pauses := by
    intro step rest state _ _ _ agrees
    unfold pauseWith
    rw [wp_bind]
    apply wp_post agrees.beside
    · exact fun other => posted_set_status _ _ other .awaitingApproval
    · intro _ between posting
      rw [wp_bind]
      apply wp_served_memory serves_careful trivial
      exact wp_write stored (posting.pending (step :: rest)) fun _ agrees => agrees
  commits := by
    intro state agrees
    unfold closeBatch
    rw [wp_bind]
    apply wp_post agrees.beside
    · exact fun other => posted_set_status _ _ other .committed
    · intro _ between posting
      rw [wp_bind]
      apply wp_write stored posting
      intro after agrees
      apply wp_served_memory serves_careful trivial
      exact agrees.evicted _ _
  enters := by
    intro state beside
    rw [wp_bind]
    apply wp_write_beside stored beside
    intro after beside
    apply wp_served_memory serves_careful trivial
    exact beside
  undoes := by
    intro step rest state beside
    apply wp_undo_step _ _ _ beside
    · exact fun uses beside => wp_clerk_beside uses beside
    · exact fun beside => wp_handle_failure stored beside
    · exact fun impossible => impossible.elim
  closes := by
    intro state beside
    unfold closeRollback
    rw [wp_bind]
    apply wp_post beside
    · exact fun other => posted_set_status_if_active _ _ other .rolledBack
    · exact fun _ between posting => wp_write stored posting fun _ agrees => agrees
  quarantines := wp_quarantine

theorem call_agrees [Inhabited Args] (stored : self.hasStore = true) {request : ApiCall Args}
    (own : request.sagaId? = some sagaId) (agrees : Agrees state) :
    wp careful (request.program self) (fun _ => Agrees) (fun _ => Agrees) state := by
  apply (agreement stored sagaId).request (fun taken => serves_careful taken)
  · exact fun _ => trivial
  · exact own
  · exact agrees
  · intro _
    cases request with
    | start owner goal tenantId =>
        dsimp only [Entrance]
        unfold openSaga
        rw [wp_bind]
        apply wp_served_memory serves_careful trivial
        apply wp_write stored _ fun _ agrees => agrees
        constructor
        · intro other entry apart found
          dsimp only [MemoryCall.serve] at found
          rw [posted_put, if_neg (Ne.symm apart)] at found
          exact agrees.beside other entry apart found
        · intro entry found
          dsimp only [MemoryCall.serve] at found
          rw [posted_put, if_pos rfl] at found
          rw [← Option.some.inj found]
    | execute owner steps => exact ⟨agrees, trivial⟩
    | resume owner =>
        intro saga found
        refine ⟨trivial, ?_⟩
        unfold takePending
        rw [wp_bind]
        apply wp_served_memory serves_careful trivial
        rw [wp_bind]
        apply wp_post (agrees.beside.pending [])
        · exact fun other => posted_set_status _ _ other .running
        · exact fun _ between posting => wp_write stored posting fun _ agrees => agrees
    | reject owner =>
        dsimp only [Entrance]
        unfold dropPending
        rw [wp_bind]
        apply wp_served_memory serves_careful trivial
        exact wp_write_beside stored (agrees.beside.pending []) fun _ beside => beside
    | recover => trivial

end Batches

section Runs

variable [DecidableEq Args] [Inhabited Args]

/-- The states between the calls of a coordinator that was started on this
store, any calls but `recover`. -/
abbrev Serving (permits : Call Args → System Args Unit → Prop) (store : Store Args) :
    System Args Unit → Prop :=
  Sessions (fun _ : Unit => running.limit permits)
    (fun _ _ program => ∃ (self : Coordinator) (request : ApiCall Args),
      self.hasStore = true ∧ request ≠ .recover ∧ program = request.program self)
    ⟨store, .empty, ()⟩

/-- Whenever a call has returned, what the coordinator reports of each saga that
it holds is what was last written to the store, as long as no step is
quarantined after a rollback that completed. -/
theorem reported_status_is_durable {store : Store Args} {state : System Args Unit}
    (serving : Serving Careful store state) : Agrees state := by
  apply sessions_invariant _ _ serving
  · intro sagaId saga held
    cases held
  · intro _ program state agrees admitted
    obtain ⟨self, request, stored, other, rfl⟩ := admitted
    cases own : request.sagaId? with
    | some sagaId => exact call_agrees stored own agrees
    | none =>
        cases request with
        | recover => exact absurd rfl other
        | start | execute | resume | reject => cases own

/-- Operators make these calls of one coordinator, as far as the check lets them. -/
def rehearsedServing (check : Call Unit → System Unit Unit → Bool)
    (outcome : (request : OutsideCall Unit) → Except PyError request.Answer)
    (requests : List (ApiCall Unit)) : System Unit Unit :=
  inTurn (fun _ => answerWith anyone fun request world => (outcome request, world))
    (fun _ => check) 100 ⟨.empty, .empty, ()⟩
    (requests.map fun request => ((), request.program sampleWorker))

theorem rehearsed_serving_reached {permits : Call Unit → System Unit Unit → Prop}
    {check : Call Unit → System Unit Unit → Bool}
    (sound : ∀ request state, check request state = true → permits request state)
    (outcome : (request : OutsideCall Unit) → Except PyError request.Answer)
    {requests : List (ApiCall Unit)} (calls : ∀ request ∈ requests, request ≠ .recover) :
    Serving permits .empty (rehearsedServing check outcome requests) := by
  apply in_turn_sessions
  · exact fun _ => answer_with_honest fun _ _ => trivial
  · exact fun _ => sound
  · intro entry member
    obtain ⟨request, listed, rfl⟩ := List.mem_map.mp member
    intro _
    exact ⟨sampleWorker, request, rfl, calls request listed, rfl⟩

def interrupted (check : Call Unit → System Unit Unit → Bool)
    (outcome : (request : OutsideCall Unit) → Except PyError request.Answer) : System Unit Unit :=
  rehearsedServing check outcome
    [.start "s" "" "", .execute "s" [sampleStep "a" none, sampleStep "b" none]]

/-- The rollback of the first action fails. -/
theorem failed_rollback_agrees : Agrees (interrupted quarantinesFailed failing) :=
  reported_status_is_durable
    (rehearsed_serving_reached (fun _ _ passed => passed) failing (by simp))

/-- The rollback completes, memory says `ROLLED_BACK`, and quarantine writes
`COMPENSATION_FAILED`. -/
theorem quarantine_parts_copies : ¬∀ (store : Store Unit) (state : System Unit Unit),
    Serving (fun _ _ => True) store state → Agrees state := by
  intro claim
  have agrees := claim .empty (interrupted (fun _ _ => true) raising)
    (rehearsed_serving_reached (fun _ _ _ => trivial) raising (by simp))
  have reported : ((interrupted (fun _ _ => true) raising).memory.active.find? "s").map (·.status) =
      some .rolledBack := by decide
  have written : (interrupted (fun _ _ => true) raising).store.status? "s" =
      some .compensationFailed := by decide
  obtain ⟨saga, held, status⟩ := Option.map_eq_some_iff.mp reported
  have same := agrees "s" saga held
  rw [written, status] at same
  cases same

end Runs

end SagaMind.StatusAgreement
