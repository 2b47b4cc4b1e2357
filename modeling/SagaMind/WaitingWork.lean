import SagaMind.Coordinator.Walk
import SagaMind.WaitingWork.Gates

/-!
# Work that waits for an approval

A saga that waits in `active_sagas` waits in the store as well, with the same
steps. Other calls may take them away: a batch on the saga that reaches its end,
or a rollback, moves the saga on, and one that pauses puts its own steps in
their place. As long as every batch on the saga comes to a gate with these steps
ahead, what waits is kept until the operator decides.
-/

namespace SagaMind.WaitingWork

open CallProgram KeyedTable Coordinator Walk

set_option autoImplicit false

variable {Args : Type}

def Backs (row? : Option (SagaRow Args)) (entry : SagaStatus × List (SagaStep Args)) : Prop :=
  entry.1 = .awaitingApproval → entry.2 ≠ [] ∧ ∃ row, row? = some row ∧
    row.status = .awaitingApproval ∧
    row.metadata.pendingSteps = some (entry.2.map serializeStep)

def Backed (state : System Args Unit) : Prop :=
  ∀ sagaId entry, posted state.memory sagaId = some entry →
    Backs (state.store.state.find? sagaId) entry

def BackedBeside (sagaId : String) (state : System Args Unit) : Prop :=
  ∀ other entry, other ≠ sagaId → posted state.memory other = some entry →
    Backs (state.store.state.find? other) entry

structure Unpaused (sagaId : String) (state : System Args Unit) : Prop where
  beside : BackedBeside sagaId state
  moved : ∀ entry, posted state.memory sagaId = some entry → entry.1 ≠ .awaitingApproval

section StateFacts

variable {sagaId : String} {status : SagaStatus} {state : System Args Unit}

theorem Backed.beside (backed : Backed state) : BackedBeside sagaId state :=
  fun other entry _ found => backed other entry found

theorem Unpaused.backed (unpaused : Unpaused sagaId state) : Backed state := by
  intro other entry found
  by_cases own : other = sagaId
  · subst own
    exact fun waits => absurd waits (unpaused.moved entry found)
  · exact unpaused.beside other entry own found

theorem BackedBeside.written (beside : BackedBeside sagaId state) (metadata : Metadata Args) :
    BackedBeside sagaId
      { state with store := state.store.writeTransactionState sagaId status metadata } := by
  intro other entry apart found
  dsimp only at found ⊢
  rw [Store.find_write_state, if_neg (Ne.symm apart)]
  exact beside other entry apart found

theorem Unpaused.written (unpaused : Unpaused sagaId state) (metadata : Metadata Args) :
    Unpaused sagaId
      { state with store := state.store.writeTransactionState sagaId status metadata } :=
  ⟨unpaused.beside.written metadata, unpaused.moved⟩

theorem BackedBeside.assigned (beside : BackedBeside sagaId state) {request : MemoryCall Args}
    (own : request.changes? = some sagaId) :
    BackedBeside sagaId { state with memory := (request.serve state.memory).2 } := by
  intro other entry apart found
  dsimp only at found
  rw [posted_others _ own apart] at found
  exact beside other entry apart found

theorem BackedBeside.registered (saga : SagaTransaction Args)
    (beside : BackedBeside saga.sagaId state) (moved : saga.status ≠ .awaitingApproval) :
    Unpaused saga.sagaId
      { state with memory := ((MemoryCall.registerSaga saga).serve state.memory).2 } := by
  constructor
  · exact beside.assigned rfl
  · intro entry found
    change posted { state.memory with active := state.memory.active.put saga } saga.sagaId = some entry
      at found
    rw [posted_put, if_pos rfl] at found
    rw [← Option.some.inj found]
    exact moved

theorem filed_beside {before after : System Args Unit} (filed : Filed before after)
    (beside : BackedBeside sagaId before) : BackedBeside sagaId after := by
  intro other entry apart found
  rw [filed.posted] at found
  rw [filed.state]
  exact beside other entry apart found

theorem filed_backed {before after : System Args Unit} (filed : Filed before after)
    (backed : Backed before) : Backed after := by
  intro other entry found
  rw [filed.posted] at found
  rw [filed.state]
  exact backed other entry found

theorem filed_unpaused {before after : System Args Unit} (filed : Filed before after)
    (unpaused : Unpaused sagaId before) : Unpaused sagaId after := by
  constructor
  · exact filed_beside filed unpaused.beside
  · intro entry found
    rw [filed.posted] at found
    exact unpaused.moved entry found

theorem BackedBeside.paused (beside : BackedBeside sagaId state) {pending : List (SagaStep Args)}
    (given : ∀ entry, posted state.memory sagaId = some entry → entry = (.awaitingApproval, pending))
    (some_step : pending ≠ []) :
    Backed { state with store := (state.store.writeTransactionState sagaId .awaitingApproval
      { pendingSteps := some (pending.map serializeStep) }) } := by
  intro other entry found
  dsimp only at found ⊢
  rw [Store.find_write_state]
  by_cases own : sagaId = other
  · subst own
    rw [if_pos rfl, given entry found]
    exact fun _ => ⟨some_step, _, rfl, rfl, rfl⟩
  · rw [if_neg own]
    exact beside other entry (Ne.symm own) found

end StateFacts

section Batches

variable [DecidableEq Args] {self : Coordinator} {sagaId : String} {status : SagaStatus}
  {state : System Args Unit} {metadata : Metadata Args}
  {post : Unit → System Args Unit → Prop} {failed : PyError → System Args Unit → Prop}

theorem wp_assign {request : MemoryCall Args} {post : request.Answer → System Args Unit → Prop}
    (own : request.changes? = some sagaId) (beside : BackedBeside sagaId state)
    (done : ∀ answer after, BackedBeside sagaId after → post answer after) :
    wp running (onMemory request) post failed state := by
  apply wp_memory trivial
  apply done
  exact beside.assigned own

theorem wp_move {request : MemoryCall Args} {post : request.Answer → System Args Unit → Prop}
    (moves : status ≠ .awaitingApproval) (own : request.changes? = some sagaId)
    (assigns : posted (request.serve state.memory).2 sagaId = (posted state.memory sagaId).map
      fun entry => if sagaId = sagaId then (status, entry.2) else entry)
    (beside : BackedBeside sagaId state)
    (done : ∀ answer after, Unpaused sagaId after → post answer after) :
    wp running (onMemory request) post failed state := by
  apply wp_memory trivial
  apply done
  constructor
  · exact beside.assigned own
  · intro entry found
    dsimp only at found
    rw [assigns] at found
    obtain ⟨old, _, rfl⟩ := Option.map_eq_some_iff.mp found
    rw [if_pos rfl]
    exact moves

theorem wp_write_beside (stored : self.hasStore = true) (beside : BackedBeside sagaId state)
    (done : ∀ after, BackedBeside sagaId after → post () after) :
    wp running (self.writeStatus sagaId status metadata) post failed state := by
  unfold writeStatus
  rw [if_pos stored]
  apply wp_write_state trivial
  apply done
  exact beside.written metadata

theorem wp_write (stored : self.hasStore = true) (unpaused : Unpaused sagaId state)
    (done : ∀ after, Unpaused sagaId after → post () after) :
    wp running (self.writeStatus sagaId status metadata) post failed state := by
  unfold writeStatus
  rw [if_pos stored]
  apply wp_write_state trivial
  apply done
  exact unpaused.written metadata

theorem wp_letter {stepName error : String} (unpaused : Unpaused sagaId state) :
    wp running (onStore (.pushDeadLetter sagaId stepName error)) (fun _ => Unpaused sagaId)
      (fun _ _ => False) state := by
  apply wp_push_dead_letter trivial
  exact ⟨unpaused.beside, unpaused.moved⟩

theorem wp_clerk {Value : Type} {action : Action Args Value}
    (uses : Uses (Clerical sagaId) action) (backed : Backed state) :
    wp running action (fun _ => Backed) (fun _ => Backed) state := by
  apply wp_clerical _ _ uses backed
  · exact fun _ _ _ _ => trivial
  · exact clerical_keeps serves_running filed_backed

theorem wp_clerk_beside {Value : Type} {action : Action Args Value}
    (uses : Uses (Clerical sagaId) action) (beside : BackedBeside sagaId state) :
    wp running action (fun _ => BackedBeside sagaId) (fun _ => BackedBeside sagaId) state := by
  apply wp_clerical _ _ uses beside
  · exact fun _ _ _ _ => trivial
  · exact clerical_keeps serves_running filed_beside

theorem wp_handle_failure (stored : self.hasStore = true) {step : SagaStep Args} {error : String}
    (beside : BackedBeside sagaId state) :
    wp running (self.handleCompensationFailure sagaId step error) (fun _ => Unpaused sagaId)
      (fun _ _ => False) state := by
  have recorded : ∀ {between : System Args Unit}, Unpaused sagaId between →
      wp running (self.recordCompensationFailure sagaId step.stepId error)
        (fun _ => Unpaused sagaId) (fun _ _ => False) between := by
    intro between unpaused
    apply wp_record_failure _ _ unpaused
    · exact fun _ _ _ _ => trivial
    · exact clerical_keeps serves_running filed_unpaused
  unfold handleCompensationFailure
  rw [wp_bind]
  apply wp_move _ rfl (posted_set_status_if_active _ _ _ .compensationFailed) beside
  · intro _ between unpaused
    rw [if_pos stored, wp_bind]
    apply wp_write_state trivial
    apply wp_seq (recorded (unpaused.written _))
    exact fun _ _ unpaused => wp_letter unpaused
  · decide

theorem wp_dead_letter {stepName error : String} (unpaused : Unpaused sagaId state) :
    wp running (deadLetterRecovery sagaId stepName error) (fun _ => Unpaused sagaId)
      (fun _ _ => False) state := by
  unfold deadLetterRecovery
  rw [wp_bind]
  apply wp_write_state trivial
  exact wp_letter (unpaused.written _)

def backing [Inhabited Args] (stored : self.hasStore = true) (sagaId : String) :
    Outline (running : Machine (coordinatorFace Args) _) self sagaId where
  queue := fun _ => True
  working := Backed
  falling := BackedBeside sagaId
  rolling := fun _ => BackedBeside sagaId
  undone := Unpaused sagaId
  finished := Backed
  restatus := fun _ _ => trivial
  moves := fun _ => trivial
  falls := Backed.beside
  ends := id
  rests := Unpaused.backed
  asks := fun uses backed => wp_clerk (enquiry_clerical sagaId uses) backed
  executes := by
    intro step rest state _ _ backed
    apply wp_mono (wp_performs _ _ backed)
    · exact fun _ _ reached => reached
    · exact fun _ _ backed => backed.beside
    · exact fun _ _ _ _ => trivial
    · exact performs_keeps serves_running filed_backed
  pauses := by
    intro step rest state _ _ _ backed
    unfold pauseWith writeStatus
    rw [wp_bind]
    apply wp_memory trivial
    rw [wp_bind]
    apply wp_memory trivial
    rw [if_pos stored]
    apply wp_write_state trivial
    have beside : BackedBeside sagaId { state with memory := _ } := backed.beside.assigned
      (show (MemoryCall.setStatus sagaId .awaitingApproval).changes? = some sagaId from rfl)
    have after := beside.assigned
      (show (MemoryCall.setPending sagaId (step :: rest)).changes? = some sagaId from rfl)
    apply after.paused _ (List.cons_ne_nil _ _)
    intro entry found
    dsimp only at found
    rw [posted_set_pending, posted_set_status] at found
    obtain ⟨between, held, rfl⟩ := Option.map_eq_some_iff.mp found
    obtain ⟨old, _, rfl⟩ := Option.map_eq_some_iff.mp held
    rw [if_pos rfl, if_pos rfl]
  commits := by
    intro state backed
    unfold closeBatch
    rw [wp_bind]
    apply wp_move _ rfl (posted_set_status _ _ _ .committed) backed.beside
    · intro _ between unpaused
      rw [wp_bind]
      apply wp_write stored unpaused
      intro after unpaused
      apply wp_memory trivial
      intro other entry found
      exact unpaused.backed other entry (posted_evict _ _ after.memory other entry found)
    · decide
  enters := by
    intro state beside
    rw [wp_bind]
    apply wp_write_beside stored beside
    intro after beside
    apply wp_memory trivial
    exact beside
  undoes := by
    intro step rest state beside
    apply wp_undo_step _ _ _ beside
    · exact fun uses beside => wp_clerk_beside uses beside
    · exact fun beside => wp_handle_failure stored beside
    · exact fun impossible => impossible.elim
  closes := by
    intro state beside
    unfold closeRollback
    rw [wp_bind]
    apply wp_move _ rfl (posted_set_status_if_active _ _ _ .rolledBack) beside
    · exact fun _ between unpaused => wp_write stored unpaused fun _ unpaused => unpaused
    · decide
  quarantines := by
    intro step state unpaused
    have records : wp running (onStore (.transitionEffect sagaId step.stepId [.executing]
        .ambiguous none (some "forward effect raised before its outcome was durably recorded")))
        (fun _ => Unpaused sagaId) (fun _ => Unpaused sagaId) state := by
      apply wp_clerical _ _ clerical_transition unpaused
      · exact fun _ _ _ _ => trivial
      · exact clerical_keeps serves_running filed_unpaused
    unfold quarantineStep
    rw [wp_bind, wp_attempt, wp_bind]
    apply wp_mono records
    · intro effect between unpaused
      apply wp_mono (wp_dead_letter unpaused)
      · exact fun _ _ unpaused => unpaused.backed
      · exact fun _ _ impossible => impossible
    · intro error between unpaused
      apply wp_mono (wp_dead_letter unpaused)
      · exact fun _ _ unpaused => unpaused.backed
      · exact fun _ _ impossible => impossible

theorem call_backed [Inhabited Args] (stored : self.hasStore = true) {request : ApiCall Args}
    (own : request.sagaId? = some sagaId) (backed : Backed state) :
    wp running (request.program self) (fun _ => Backed) (fun _ => Backed) state := by
  apply (backing stored sagaId).request (fun taken => taken)
  · exact fun _ => trivial
  · exact own
  · exact backed
  · intro _
    cases request with
    | start owner goal tenantId =>
        obtain rfl := Option.some.inj own
        dsimp only [Entrance]
        unfold openSaga
        rw [wp_bind]
        apply wp_memory trivial
        have beside : BackedBeside owner state := backed.beside
        have moved : SagaStatus.running ≠ .awaitingApproval := by decide
        have unpaused := BackedBeside.registered { sagaId := owner, tenantId, goal, status := .running }
          beside moved
        exact wp_write stored unpaused fun _ unpaused => unpaused.backed
    | execute owner steps => exact ⟨backed, trivial⟩
    | resume owner =>
        obtain rfl := Option.some.inj own
        intro saga found
        refine ⟨trivial, ?_⟩
        unfold takePending
        rw [wp_bind]
        apply wp_assign rfl backed.beside
        intro _ between beside
        rw [wp_bind]
        apply wp_move _ rfl (posted_set_status _ _ _ .running) beside
        · exact fun _ between unpaused => wp_write stored unpaused fun _ unpaused => unpaused.backed
        · decide
    | reject owner =>
        obtain rfl := Option.some.inj own
        dsimp only [Entrance]
        unfold dropPending
        rw [wp_bind]
        apply wp_assign rfl backed.beside
        exact fun _ between beside => wp_write_beside stored beside fun _ beside => beside
    | recover => trivial

end Batches

section Recovery

variable [DecidableEq Args] {self : Coordinator} {state : System Args Unit}

omit [DecidableEq Args] in
theorem backs_awaiting {row : SagaRow Args} {entry : SagaStatus × List (SagaStep Args)}
    (backs : Backs (some row) entry) (waits : entry.1 = .awaitingApproval) :
    awaitsApproval row.status row.metadata = true := by
  obtain ⟨some_step, found, same, status, records⟩ := backs waits
  obtain rfl := Option.some.inj same
  simp [awaitsApproval, status, records, some_step]

omit [DecidableEq Args] in
theorem listed_unpaused {saga : IncompleteSaga Args} (listed : Listed saga state.store)
    (works : awaitsApproval saga.status saga.metadata = false) (backed : Backed state) :
    Unpaused saga.sagaId state := by
  constructor
  · exact backed.beside
  · intro entry found waits
    obtain ⟨row, present, status, metadata⟩ := listed.row
    have backs := backed saga.sagaId entry found
    rw [present] at backs
    have awaits := backs_awaiting backs waits
    rw [status, metadata, works] at awaits
    cases awaits

theorem settle_memory {sagaId : String} {request : Call Args} {before after : System Args Unit}
    {reply : Except PyError request.Answer} (settle : SettleCall sagaId request)
    (taken : serveCall anyone request before reply after) : after.memory = before.memory := by
  rcases request with request | request | request
  · exact settle.elim
  · rw [taken.2]
    rfl
  · obtain ⟨world, -, rfl⟩ := taken
    rfl

theorem settle_unpaused {sagaId : String} {request : Call Args} {before after : System Args Unit}
    {reply : Except PyError request.Answer} (settle : SettleCall sagaId request)
    (unpaused : Unpaused sagaId before) (taken : serveCall anyone request before reply after) :
    Unpaused sagaId after := by
  have untouched := untouched_call settle.recovery.confined taken
  have same := settle_memory settle taken
  constructor
  · intro other entry apart found
    rw [same] at found
    rw [untouched.row other apart]
    exact unpaused.beside other entry apart found
  · rw [same]
    exact unpaused.moved

theorem wp_recover_saga {saga : IncompleteSaga Args} (listed : Listed saga state.store)
    (backed : Backed state) :
    wp running (self.recoverSaga saga) (fun _ => Backed) (fun _ => Backed) state := by
  cases waits : awaitsApproval saga.status saga.metadata with
  | true =>
      obtain ⟨row, present, status, metadata⟩ := listed.row
      obtain ⟨awaiting, some_step⟩ := of_decide_eq_true waits
      unfold recoverSaga
      rw [if_pos waits, wp_bind]
      apply wp_memory trivial
      intro other entry found
      dsimp only [MemoryCall.serve] at found ⊢
      rw [posted_put] at found
      split at found
      · rename_i own
        obtain rfl := Option.some.inj found
        subst own
        intro _
        cases stored : saga.metadata.pendingSteps with
        | none => exact absurd (by rw [stored]; rfl) some_step
        | some records =>
            rw [stored] at some_step
            dsimp only [Option.getD_some] at some_step ⊢
            refine ⟨by simpa using some_step, row, present, status.trans awaiting, ?_⟩
            rw [metadata, stored, List.map_map]
            exact congrArg some (List.map_id' records).symm
      · exact backed other entry found
  | false =>
      apply wp_mono (wp_maintains _ _ (self.recovery_settle_saga waits ())
        (listed_unpaused listed waits backed))
      · exact fun _ _ reached => reached.2.backed
      · exact fun _ _ reached => reached.2.backed
      · exact fun _ _ _ _ => trivial
      · exact fun request before reply after settle unpaused taken =>
          settle_unpaused settle unpaused taken

theorem recover_backed (backed : Backed state) :
    wp running self.recover (fun _ => Backed) (fun _ => Backed) state := by
  unfold recover
  rw [wp_ite]
  split
  · rw [wp_bind, wp_on_store]
    refine ⟨trivial, ?_⟩
    apply wp_each_saga fun taken => taken
    · exact fun listed backed => wp_recover_saga listed backed
    · exact fun saga member => list_incomplete_listed member
    · exact list_incomplete_distinct _
    · exact backed
  · exact backed

end Recovery

section Reachable

variable [DecidableEq Args] [Inhabited Args] {self : Coordinator} {state : System Args Unit}

theorem every_call_backed (stored : self.hasStore = true) (request : ApiCall Args)
    (backed : Backed state) :
    wp running (request.program self) (fun _ => Backed) (fun _ => Backed) state := by
  cases own : request.sagaId? with
  | some sagaId => exact call_backed stored own backed
  | none =>
      cases request with
      | recover =>
          unfold ApiCall.program
          rw [wp_void]
          exact recover_backed backed
      | start | execute | resume | reject => cases own

/-- The states of a deployment between two calls, crashes anywhere. -/
abbrev Reached : System Args Unit → Prop :=
  Lifetime anyone (·.hasStore = true) (fun _ _ => True) (fun _ => True) ⟨.empty, .empty, ()⟩

theorem reached_backed (reached : Reached state) : Backed state := by
  have rule := @lives_invariant (coordinatorFace Args) PyError Unit (System Args Unit) running
    (Made (·.hasStore = true) fun _ _ => True) (fun _ => True) restart ⟨.empty, .empty, ()⟩ state
    Backed fun _ => True
  apply rule _ _ _ _ reached
  · intro sagaId entry found
    cases found
  · exact fun _ _ => trivial
  · intro program state backed made
    obtain ⟨worker, request, stored, _, rfl⟩ := made
    exact every_call_backed stored request backed
  · intro state _ _ sagaId entry found
    cases found

end Reachable

structure Waits (sagaId : String) (pending : List (SagaStep Args)) (state : System Args Unit) :
    Prop where
  held : ∃ later, posted state.memory sagaId = some (.awaitingApproval, later) ∧ pending ⊆ later
  stored : ∃ row records, state.store.state.find? sagaId = some row ∧
    row.status = .awaitingApproval ∧ row.metadata.pendingSteps = some records ∧
    pending.map serializeStep ⊆ records

section Kept

variable {sagaId owner : String} {pending : List (SagaStep Args)} {state : System Args Unit}

theorem Waits.elsewhere (waits : Waits sagaId pending state) {request : MemoryCall Args}
    (own : request.changes? = some owner) (apart : owner ≠ sagaId) :
    Waits sagaId pending { state with memory := (request.serve state.memory).2 } := by
  constructor
  · obtain ⟨later, found, kept⟩ := waits.held
    refine ⟨later, ?_, kept⟩
    dsimp only
    rw [posted_others _ own (Ne.symm apart)]
    exact found
  · exact waits.stored

theorem Waits.marked (waits : Waits sagaId pending state) :
    Waits sagaId pending { state with
      memory := ((MemoryCall.setStatus sagaId .awaitingApproval).serve state.memory).2 } := by
  constructor
  · obtain ⟨later, found, kept⟩ := waits.held
    refine ⟨later, ?_, kept⟩
    dsimp only
    rw [posted_set_status, found, Option.map_some, if_pos rfl]
  · exact waits.stored

theorem Waits.joined (waits : Waits sagaId pending state) {steps : List (SagaStep Args)}
    (kept : pending ⊆ steps) :
    Waits sagaId pending { state with
      memory := ((MemoryCall.setPending sagaId steps).serve state.memory).2 } := by
  constructor
  · obtain ⟨later, found, _⟩ := waits.held
    refine ⟨steps, ?_, kept⟩
    dsimp only
    rw [posted_set_pending, found, Option.map_some, if_pos rfl]
  · exact waits.stored

theorem Waits.evicted (waits : Waits sagaId pending state) (limit : Nat) :
    Waits sagaId pending { state with
      memory := ((MemoryCall.evictIfNeeded limit).serve state.memory).2 } := by
  constructor
  · obtain ⟨later, found, kept⟩ := waits.held
    refine ⟨later, ?_, kept⟩
    apply posted_evict_stays limit _ _ _ found
    intro saga member same
    obtain ⟨held, present, entry⟩ := Option.map_eq_some_iff.mp found
    have here := Table.find_of_mem member
    rw [same, present] at here
    obtain rfl := Option.some.inj here
    have status := congrArg Prod.fst entry
    dsimp only at status
    rw [status]
    rfl
  · exact waits.stored

theorem Waits.written (waits : Waits sagaId pending state) {status : SagaStatus}
    {metadata : Metadata Args} (apart : owner ≠ sagaId) :
    Waits sagaId pending
      { state with store := state.store.writeTransactionState owner status metadata } := by
  constructor
  · exact waits.held
  · dsimp only
    rw [Store.find_write_state, if_neg apart]
    exact waits.stored

theorem Waits.repaused (waits : Waits sagaId pending state) {steps : List (SagaStep Args)}
    (kept : pending ⊆ steps) :
    Waits sagaId pending { state with
      store := (state.store.writeTransactionState sagaId .awaitingApproval
        { pendingSteps := some (steps.map serializeStep) }) } := by
  constructor
  · exact waits.held
  · dsimp only
    rw [Store.find_write_state, if_pos rfl]
    exact ⟨_, _, rfl, rfl, rfl, List.map_subset _ kept⟩

theorem filed_waits {before after : System Args Unit} (filed : Filed before after)
    (waits : Waits sagaId pending before) : Waits sagaId pending after := by
  constructor
  · rw [filed.posted]
    exact waits.held
  · rw [filed.state]
    exact waits.stored

end Kept

section Further

variable [DecidableEq Args] {self : Coordinator} {sagaId owner : String}
  {pending : List (SagaStep Args)} {state : System Args Unit} {status : SagaStatus}
  {metadata : Metadata Args} {post : Unit → System Args Unit → Prop}
  {failed : PyError → System Args Unit → Prop}

theorem wp_elsewhere {request : MemoryCall Args} {post : request.Answer → System Args Unit → Prop}
    (own : request.changes? = some owner) (apart : owner ≠ sagaId)
    (waits : Waits sagaId pending state)
    (done : ∀ answer after, Waits sagaId pending after → post answer after) :
    wp running (onMemory request) post failed state := by
  apply wp_served_memory serves_running trivial
  apply done
  exact waits.elsewhere own apart

theorem wp_write_elsewhere (apart : owner ≠ sagaId) (waits : Waits sagaId pending state)
    (done : ∀ after, Waits sagaId pending after → post () after) :
    wp running (self.writeStatus owner status metadata) post failed state := by
  unfold writeStatus
  rw [wp_ite]
  split
  · apply wp_served_store serves_running trivial
    apply done
    exact waits.written apart
  · exact done state waits

theorem wp_clerk_waits {Value : Type} {action : Action Args Value}
    (uses : Uses (Clerical owner) action) (waits : Waits sagaId pending state) :
    wp running action (fun _ => Waits sagaId pending)
      (fun _ => Waits sagaId pending) state := by
  apply wp_clerical _ _ uses waits
  · exact fun _ _ _ _ => trivial
  · exact clerical_keeps serves_running filed_waits

theorem wp_letter_waits {stepName error : String} (waits : Waits sagaId pending state) :
    wp running (onStore (.pushDeadLetter owner stepName error))
      (fun _ => Waits sagaId pending) (fun _ _ => False) state := by
  apply wp_served_store serves_running trivial
  exact ⟨waits.held, waits.stored⟩

theorem wp_handle_elsewhere (apart : owner ≠ sagaId) {step : SagaStep Args} {error : String}
    (waits : Waits sagaId pending state) :
    wp running (self.handleCompensationFailure owner step error) (fun _ => Waits sagaId pending)
      (fun _ _ => False) state := by
  have recorded : ∀ {between : System Args Unit}, Waits sagaId pending between →
      wp running (self.recordCompensationFailure owner step.stepId error)
        (fun _ => Waits sagaId pending) (fun _ _ => False) between := by
    intro between waits
    apply wp_record_failure _ _ waits
    · exact fun _ _ _ _ => trivial
    · exact clerical_keeps serves_running filed_waits
  unfold handleCompensationFailure
  rw [wp_bind]
  apply wp_elsewhere rfl apart waits
  intro _ between waits
  rw [wp_ite]
  split
  · rw [wp_bind]
    apply wp_write_state trivial
    apply wp_seq (recorded (waits.written apart))
    exact fun _ between waits => wp_letter_waits waits
  · exact waits

theorem wp_dead_letter_elsewhere (apart : owner ≠ sagaId) {stepName error : String}
    (waits : Waits sagaId pending state) :
    wp running (deadLetterRecovery owner stepName error) (fun _ => Waits sagaId pending)
      (fun _ _ => False) state := by
  unfold deadLetterRecovery
  rw [wp_bind]
  apply wp_write_state trivial
  exact wp_letter_waits (waits.written apart)

def keeping [Inhabited Args] (self : Coordinator) {owner sagaId : String} (apart : owner ≠ sagaId)
    (pending : List (SagaStep Args)) :
    Outline (running : Machine (coordinatorFace Args) _) self owner where
  queue := fun _ => True
  working := Waits sagaId pending
  falling := Waits sagaId pending
  rolling := fun _ => Waits sagaId pending
  undone := Waits sagaId pending
  finished := Waits sagaId pending
  restatus := fun _ _ => trivial
  moves := fun _ => trivial
  falls := id
  ends := id
  rests := id
  asks := fun uses waits => wp_clerk_waits (enquiry_clerical owner uses) waits
  executes := by
    intro step rest state _ _ waits
    apply wp_performs _ _ waits
    · exact fun _ _ _ _ => trivial
    · exact performs_keeps serves_running filed_waits
  pauses := by
    intro step rest state _ _ _ waits
    unfold pauseWith
    rw [wp_bind]
    apply wp_elsewhere rfl apart waits
    intro _ between waits
    rw [wp_bind]
    apply wp_elsewhere rfl apart waits
    exact fun _ between waits => wp_write_elsewhere apart waits fun _ waits => waits
  commits := by
    intro state waits
    unfold closeBatch
    rw [wp_bind]
    apply wp_elsewhere rfl apart waits
    intro _ between waits
    rw [wp_bind]
    apply wp_write_elsewhere apart waits
    intro after waits
    apply wp_memory trivial
    exact waits.evicted _
  enters := by
    intro state waits
    rw [wp_bind]
    apply wp_write_elsewhere apart waits
    intro after waits
    exact wp_memory trivial waits
  undoes := by
    intro step rest state waits
    apply wp_undo_step _ _ _ waits
    · exact fun uses waits => wp_clerk_waits uses waits
    · exact fun waits => wp_handle_elsewhere apart waits
    · exact fun impossible => impossible.elim
  closes := by
    intro state waits
    unfold closeRollback
    rw [wp_bind]
    apply wp_elsewhere rfl apart waits
    exact fun _ between waits => wp_write_elsewhere apart waits fun _ waits => waits
  quarantines := by
    intro step state waits
    unfold quarantineStep
    rw [wp_bind, wp_attempt, wp_bind]
    apply wp_mono (wp_clerk_waits clerical_transition waits)
    · exact fun _ _ waits => wp_dead_letter_elsewhere apart waits
    · exact fun _ _ waits => wp_dead_letter_elsewhere apart waits

theorem call_keeps [Inhabited Args] {request : ApiCall Args} (own : request.sagaId? = some owner)
    (apart : owner ≠ sagaId) (waits : Waits sagaId pending state) :
    wp running (request.program self) (fun _ => Waits sagaId pending)
      (fun _ => Waits sagaId pending) state := by
  apply (keeping self apart pending).request (fun taken => taken)
  · exact fun _ => trivial
  · exact own
  · exact waits
  · intro _
    cases request with
    | start other goal tenantId =>
        obtain rfl := Option.some.inj own
        dsimp only [Entrance]
        unfold openSaga
        rw [wp_bind]
        apply wp_elsewhere rfl apart waits
        exact fun _ between waits => wp_write_elsewhere apart waits fun _ waits => waits
    | execute other steps => exact ⟨waits, trivial⟩
    | resume other =>
        obtain rfl := Option.some.inj own
        intro saga found
        refine ⟨trivial, ?_⟩
        unfold takePending
        rw [wp_bind]
        apply wp_elsewhere rfl apart waits
        intro _ between waits
        rw [wp_bind]
        apply wp_elsewhere rfl apart waits
        exact fun _ between waits => wp_write_elsewhere apart waits fun _ waits => waits
    | reject other =>
        obtain rfl := Option.some.inj own
        dsimp only [Entrance]
        unfold dropPending
        rw [wp_bind]
        apply wp_elsewhere rfl apart waits
        exact fun _ between waits => wp_write_elsewhere apart waits fun _ waits => waits
    | recover => trivial

/-- A recovery restores the saga with the steps that wait in its metadata. -/
theorem wp_recover_keeps {saga : IncompleteSaga Args} (some_step : pending ≠ [])
    (listed : Listed saga state.store) (waits : Waits sagaId pending state) :
    wp running (self.recoverSaga saga) (fun _ => Waits sagaId pending)
      (fun _ => Waits sagaId pending) state := by
  obtain ⟨row, present, status, metadata⟩ := listed.row
  cases restores : awaitsApproval saga.status saga.metadata with
  | true =>
      unfold recoverSaga
      rw [if_pos restores, wp_bind]
      by_cases own : saga.sagaId = sagaId
      · apply wp_served_memory serves_running trivial
        constructor
        · obtain ⟨found, records, same, _, written, kept⟩ := waits.stored
          rw [own, same] at present
          obtain rfl := Option.some.inj present
          refine ⟨records.map deserializeStep, ?_, ?_⟩
          · dsimp only [MemoryCall.serve]
            rw [posted_put, if_pos own, ← metadata, written]
            rfl
          · intro step member
            have record := kept (List.mem_map_of_mem member)
            exact List.mem_map.mpr ⟨_, record, deserialize_serialize_step step⟩
        · exact waits.stored
      · exact wp_elsewhere rfl own waits fun _ _ waits => waits
  | false =>
      have apart : saga.sagaId ≠ sagaId := by
        intro own
        obtain ⟨found, records, same, awaiting, written, kept⟩ := waits.stored
        rw [own, same] at present
        obtain rfl := Option.some.inj present
        have filled : records ≠ [] := by
          rintro rfl
          exact some_step (List.map_eq_nil_iff.mp (List.subset_nil.mp kept))
        rw [← status, ← metadata] at restores
        simp [awaitsApproval, awaiting, written, filled] at restores
      apply wp_mono (wp_maintains _ _ (self.recovery_settle_saga restores ()) waits)
      · exact fun _ _ reached => reached.2
      · exact fun _ _ reached => reached.2
      · exact fun _ _ _ _ => trivial
      · intro request before reply after settle waits taken
        have untouched := untouched_call settle.recovery.confined taken
        constructor
        · rw [settle_memory settle taken]
          exact waits.held
        · rw [untouched.row sagaId (Ne.symm apart)]
          exact waits.stored

theorem recover_keeps (some_step : pending ≠ []) (waits : Waits sagaId pending state) :
    wp running self.recover (fun _ => Waits sagaId pending) (fun _ => Waits sagaId pending)
      state := by
  unfold recover
  rw [wp_ite]
  split
  · rw [wp_bind, wp_on_store]
    refine ⟨trivial, ?_⟩
    apply wp_each_saga fun taken => taken
    · exact fun listed waits => wp_recover_keeps some_step listed waits
    · exact fun saga member => list_incomplete_listed member
    · exact list_incomplete_distinct _
    · exact waits
  · exact waits

theorem start_keeps (waits : Waits sagaId pending state) (goal tenantId : String) :
    wp running (self.startTransactionLog sagaId goal tenantId) (fun _ => Waits sagaId pending)
      (fun _ => Waits sagaId pending) state := by
  obtain ⟨later, found, _⟩ := waits.held
  obtain ⟨saga, held, _⟩ := Option.map_eq_some_iff.mp found
  unfold startTransactionLog
  rw [wp_bind]
  apply wp_memory trivial
  dsimp only [MemoryCall.serve]
  rw [held, wp_ite, if_pos Option.isSome_some]
  exact waits

end Further

section Batch

variable [DecidableEq Args] {self : Coordinator} {sagaId : String}
  {pending rest done : List (SagaStep Args)} {step : SagaStep Args} {state : System Args Unit}
  {store : Store Args}

theorem serves_obliged : Serves obliging (obliged : Machine (coordinatorFace Args) _) :=
  fun taken => taken

structure Underway (store : Store Args) (sagaId : String) (pending done : List (SagaStep Args))
    (state : System Args Unit) : Prop where
  waits : Waits sagaId pending state
  abreast : Abreast store sagaId done done state

theorem wp_repauses (stored : self.hasStore = true) (kept : pending ⊆ step :: rest)
    (waits : Waits sagaId pending state) :
    wp obliged (self.pauseWith sagaId (step :: rest)) (fun _ => Waits sagaId pending)
      (fun _ _ => False) state := by
  unfold pauseWith writeStatus
  rw [wp_bind]
  apply wp_memory trivial
  rw [wp_bind]
  apply wp_memory trivial
  rw [if_pos stored]
  apply wp_write_state trivial
  exact (waits.marked.joined kept).repaused kept

theorem wp_asks (stored : self.hasStore = true) (underway : Underway store sagaId pending done state) :
    wp obliged (self.alreadyCommitted sagaId step)
      (fun skip after => skip = skips store sagaId done step ∧
        Underway store sagaId pending done after) (fun _ _ => False) state := by
  have told : skips store sagaId done step = _ := underway.abreast.skips
  unfold alreadyCommitted
  rw [wp_ite]
  split
  · rename_i keyed
    refine (wp_on_store _ _ _ _).mpr ⟨trivial, ?_, underway⟩
    rw [told, keyed.1]
    rfl
  · rename_i unkeyed
    refine ⟨?_, underway⟩
    rw [told]
    have blank : truthy step.idempotencyKey = false := by simpa [stored] using unkeyed
    rw [blank]
    rfl

variable [Inhabited Args]

theorem wp_does (stored : self.hasStore = true) (taken : takes self store sagaId done step = true)
    (underway : Underway store sagaId pending done state) :
    wp obliged (self.executeStep sagaId step)
      (fun committed after => committed.status = .committed ∧
        Underway store sagaId pending (step :: done) after) (fun _ _ => False) state := by
  have keeps : wp obliged (self.executeStep sagaId step)
      (fun committed after => committed.status = .committed ∧ Waits sagaId pending after)
      (fun _ => Waits sagaId pending) state := by
    apply wp_performs _ _ underway.waits
    · exact fun _ _ _ _ => trivial
    · exact performs_keeps serves_obliged filed_waits
  apply wp_mono (wp_and keeps (wp_executes stored underway.abreast taken))
  · exact fun _ _ reached => ⟨reached.1.1, reached.1.2, reached.2⟩
  · exact fun _ _ reached => reached.2

theorem wp_attempts (stored : self.hasStore = true) {before : List (SagaStep Args)}
    (behind : ∀ other ∈ before, other.status = .committed)
    (next : if step.requiresApproval ∧ ¬step.approved then
      pending ⊆ { step with status := .awaitingApproval } :: rest
      else takes self store sagaId done step = true)
    (underway : Underway store sagaId pending done state) :
    wp obliged (self.attemptStep sagaId before { step with status := .running } rest)
      (fun outcome after => match outcome with
        | some committed => ¬(step.requiresApproval ∧ ¬step.approved) ∧
            committed.status = .committed ∧ Underway store sagaId pending (step :: done) after
        | none => Waits sagaId pending after) (fun _ _ => False) state := by
  apply attempt_step_rule (Underway store sagaId pending done) (fun _ => False)
    (Underway store sagaId pending done)
  case verifies =>
    apply wp_outside trivial
    · rintro _ world ⟨explanation, same⟩
      obtain rfl := Except.ok.inj same
      rw [if_pos rfl]
      exact underway
    · rintro error world ⟨explanation, same⟩
      cases same
  case checks =>
    intro between underway
    unfold preflight
    rw [wp_ite]
    split
    · apply wp_outside trivial
      · exact fun _ world _ => underway
      · intro error world same
        cases same
    · exact underway
  case waits =>
    intro between underway gated waiting
    rw [self.await_approval_pauses sagaId behind rfl]
    rw [if_pos ⟨gated, by simpa using waiting⟩] at next
    exact wp_repauses stored next underway.waits
  case executes =>
    intro between underway passed
    have open_gate : ¬(step.requiresApproval = true ∧ ¬step.approved = true) :=
      fun gate => gate.2 (passed gate.1)
    rw [if_neg open_gate] at next
    have runs : takes self store sagaId done { step with status := .running } = true := next
    apply wp_mono (wp_does stored runs underway)
    · exact fun _ _ reached => ⟨open_gate, reached.1, reached.2.waits,
        ⟨reached.2.abreast.published, reached.2.abreast.untouched⟩⟩
    · exact fun _ _ impossible => impossible
  case retreats => exact fun impossible => impossible.elim

/-- A batch that comes to its gate leaves the saga waiting: by induction on the
steps ahead. -/
theorem batch_keeps (stored : self.hasStore = true) {steps : List (SagaStep Args)}
    (waits : Waits sagaId pending state)
    (gate : comesToGate self state.store sagaId pending [] steps = true) :
    wp obliged (self.executeSaga sagaId steps) (fun _ => Waits sagaId pending)
      (fun _ => Waits sagaId pending) state := by
  obtain ⟨later, found, _⟩ := waits.held
  obtain ⟨saga, held, _⟩ := Option.map_eq_some_iff.mp found
  unfold executeSaga
  rw [wp_bind]
  apply wp_memory trivial
  dsimp only [MemoryCall.serve]
  rw [held, wp_ite, if_pos Option.isSome_some]
  let ahead (before steps : List (SagaStep Args)) (between : System Args Unit) : Prop :=
    (∀ step ∈ before, step.status = .committed) ∧ ∃ done,
      Underway state.store sagaId pending done between ∧
      comesToGate self state.store sagaId pending done steps = true
  apply execute_steps_rule ahead fun before step rest between =>
    (∀ step ∈ before, step.status = .committed) ∧ ∃ done,
      Underway state.store sagaId pending done between ∧
      skips state.store sagaId done step = false ∧
      comesToGate self state.store sagaId pending done (step :: rest) = true
  case closes =>
    intro before between ⟨_, done, _, gate⟩
    cases gate
  case asks =>
    intro before step rest between ⟨behind, done, underway, gate⟩
    apply wp_unfailing (wp_asks stored underway)
    rintro skip after ⟨rfl, underway⟩
    split
    · rename_i skipped
      refine ⟨?_, done, underway, ?_⟩
      · exact committed_behind behind rfl
      · rw [comesToGate, if_pos skipped] at gate
        exact gate
    · rename_i due
      exact ⟨behind, done, underway, by simpa using due, gate⟩
  case attempts =>
    intro before step rest between ⟨behind, done, underway, due, gate⟩
    rw [comesToGate, if_neg (by simp [due])] at gate
    have next : if step.requiresApproval ∧ ¬step.approved then
        pending ⊆ { step with status := .awaitingApproval } :: rest
        else takes self state.store sagaId done step = true := by
      split
      · rename_i gated
        rw [if_pos gated] at gate
        exact of_decide_eq_true gate
      · rename_i open_gate
        rw [if_neg open_gate] at gate
        exact (of_decide_eq_true gate).1
    apply wp_mono (wp_attempts stored behind next underway)
    · intro outcome last reached
      cases outcome with
      | none => exact reached
      | some committed =>
          obtain ⟨open_gate, finished, underway⟩ := reached
          rw [if_neg open_gate] at gate
          exact ⟨committed_behind behind finished, step :: done, underway,
            (of_decide_eq_true gate).2⟩
    · exact fun _ _ impossible => impossible.elim
  case here =>
    refine ⟨?_, [], ⟨waits, .start state⟩, gate⟩
    exact fun step member => absurd member List.not_mem_nil

end Batch

section Runs

variable [DecidableEq Args] [Inhabited Args] {sagaId : String} {pending : List (SagaStep Args)}
  {start state : System Args Unit}

def leavesWaiting (sagaId : String) : ApiCall Args → Bool
  | .resume owner => owner ≠ sagaId
  | .reject owner => owner ≠ sagaId
  | _ => true

/-- The states that further calls lead to, none of which decides on the saga. -/
abbrev Further (answers : ApiCall Args → Outside Args Unit)
    (permits : Coordinator → ApiCall Args → System Args Unit → Prop) (sagaId : String)
    (start : System Args Unit) : System Args Unit → Prop :=
  Sessions (fun request : ApiCall Args => serving (answers request))
    (fun request state program => ∃ self : Coordinator, self.hasStore = true ∧
      leavesWaiting sagaId request = true ∧ permits self request state ∧
      program = request.program self) start

/-- The outside obliges a batch on this saga and may answer other calls anything. -/
def obligesBatch (sagaId : String) : ApiCall Args → Outside Args Unit
  | .execute owner _ => if owner = sagaId then obliging else anyone
  | _ => anyone

/-- A batch on this saga is submitted where it comes to a gate with the waiting
steps ahead. -/
def comesBack (sagaId : String) (pending : List (SagaStep Args)) (self : Coordinator) :
    ApiCall Args → System Args Unit → Bool
  | .execute owner steps, state =>
      owner = sagaId → comesToGate self state.store sagaId pending [] steps
  | _, _ => true

/-- The saga waits with these steps in memory and in the store, and the operator
may still approve or reject: an approval comes to the loop over the steps that
wait, the first one approved, and a rejection to the rollback. -/
structure StillWaits (sagaId : String) (pending : List (SagaStep Args))
    (state : System Args Unit) : Prop where
  held : ∃ saga, state.memory.active.find? sagaId = some saga ∧
    saga.status = .awaitingApproval ∧ pending ⊆ saga.pendingSteps
  stored : state.store.status? sagaId = some .awaitingApproval
  recorded : ∃ records, (state.store.metadata sagaId).pendingSteps = some records ∧
    pending.map serializeStep ⊆ records
  resumable : ∀ self : Coordinator, ∃ saga after,
    state.memory.active.find? sagaId = some saga ∧ pending ⊆ saga.pendingSteps ∧
    Steps running (self.resumeAfterApproval sagaId) state
      (self.executeSteps sagaId [] (approveFirst saga.pendingSteps)) after
  rejectable : ∀ self : Coordinator, ∃ after,
    Steps running (self.rejectPending sagaId) state (do
      self.executeCompensations sagaId (completedSteps sagaId)
      pure true) after

theorem Waits.still (waits : Waits sagaId pending state) (some_step : pending ≠ []) :
    StillWaits sagaId pending state := by
  obtain ⟨later, found, kept⟩ := waits.held
  obtain ⟨saga, held, entry⟩ := Option.map_eq_some_iff.mp found
  obtain ⟨awaiting, rfl⟩ := Prod.mk.inj entry
  obtain ⟨row, records, present, status, written, included⟩ := waits.stored
  have filled : saga.pendingSteps ≠ [] := by
    intro empty
    rw [empty] at kept
    exact some_step (List.subset_nil.mp kept)
  constructor
  · exact ⟨saga, held, awaiting, kept⟩
  · rw [Store.status?, present, Option.map_some, status]
  · refine ⟨records, ?_, included⟩
    rw [Store.metadata, present]
    exact written
  · intro self
    have enters : (ApiCall.resume sagaId).enters state.memory = true := by
      simp [ApiCall.enters, held, awaiting, filled]
    obtain ⟨same, after, known, steps⟩ := resume_goes_in self enters
    obtain rfl := Option.some.inj (held.symm.trans known)
    exact ⟨saga, after, held, kept, steps⟩
  · intro self
    have enters : (ApiCall.reject sagaId : ApiCall Args).enters state.memory = true := by
      simp [ApiCall.enters, held, awaiting]
    exact reject_goes_in self enters

theorem every_call_keeps {self : Coordinator} (stored : self.hasStore = true)
    (some_step : pending ≠ []) {request : ApiCall Args}
    (leaves : leavesWaiting sagaId request = true)
    (returns : comesBack sagaId pending self request state = true)
    (waits : Waits sagaId pending state) :
    wp (serving (obligesBatch sagaId request)) (request.program self)
      (fun _ => Waits sagaId pending) (fun _ => Waits sagaId pending) state := by
  cases request with
  | start owner goal tenantId =>
      by_cases own : owner = sagaId
      · subst own
        exact start_keeps waits goal tenantId
      · exact call_keeps rfl own waits
  | execute owner steps =>
      by_cases own : owner = sagaId
      · subst own
        have gate := of_decide_eq_true returns rfl
        rw [obligesBatch, if_pos rfl, ApiCall.program, wp_void]
        exact batch_keeps stored waits gate
      · rw [obligesBatch, if_neg own]
        exact call_keeps rfl own waits
  | resume owner => exact call_keeps rfl (of_decide_eq_true leaves) waits
  | reject owner => exact call_keeps rfl (of_decide_eq_true leaves) waits
  | recover =>
      unfold ApiCall.program
      rw [wp_void]
      exact recover_keeps some_step waits

/-- Once a saga waits, it waits with the same steps after any further calls, and
the operator can still decide, as long as every batch on it comes to a gate with
these steps ahead. -/
theorem waiting_work_is_kept (reached : Reached start)
    (waits : posted start.memory sagaId = some (.awaitingApproval, pending))
    (further : Further (obligesBatch sagaId)
      (fun self request state => comesBack sagaId pending self request state = true)
      sagaId start state) :
    StillWaits sagaId pending state := by
  obtain ⟨some_step, row, present, status, records⟩ :=
    reached_backed reached sagaId (.awaitingApproval, pending) waits rfl
  have here : Waits sagaId pending start := by
    constructor
    · exact ⟨pending, waits, fun _ member => member⟩
    · exact ⟨row, _, present, status, records, fun _ member => member⟩
  have kept : Waits sagaId pending state := by
    apply sessions_invariant here _ further
    intro request _ state waits admitted
    obtain ⟨self, stored, leaves, returns, rfl⟩ := admitted
    exact every_call_keeps stored some_step leaves returns waits
  exact kept.still some_step

def gatedStep : SagaStep Unit := { sampleStep "a" none with requiresApproval := true }

def waitingSteps : List (SagaStep Unit) := [{ gatedStep with status := .awaitingApproval }]

def paused : System Unit Unit :=
  rehearsedLife anyone accepting (fun _ _ => true) (fun _ => true) ⟨.empty, .empty, ()⟩
    [(.start "s" "" "", none), (.execute "s" [gatedStep], none)]

theorem paused_reached : Reached paused := by
  have honest : ∀ (request : OutsideCall Unit) (world : Unit),
      anyone.respond request world (accepting request) world := fun _ _ => trivial
  apply rehearsed_life_reached honest
  · rfl
  · exact fun _ _ _ => trivial
  · exact fun _ _ => trivial

theorem accepting_honest {outside : Outside Unit Unit}
    (honest : ∀ request world, outside.respond request world (accepting request) world)
    (request : Call Unit) (state : System Unit Unit) :
    (serving outside).step request state
      (answerWith anyone (fun request world => (accepting request, world)) request state).1
      (answerWith anyone (fun request world => (accepting request, world)) request state).2 := by
  cases request with
  | memory request => exact ⟨rfl, rfl⟩
  | store request => exact ⟨rfl, rfl⟩
  | outside request => exact ⟨(), honest request (), rfl⟩

def submit (accepts : ApiCall Unit → System Unit Unit → Bool) (state : System Unit Unit)
    (request : ApiCall Unit) : System Unit Unit :=
  let last := simulate (answerWith anyone fun request world => (accepting request, world)) 60
    (request.program sampleWorker) state
  if accepts request state ∧ last.1.finished then last.2 else state

theorem submit_further {answers : ApiCall Unit → Outside Unit Unit}
    {permits : Coordinator → ApiCall Unit → System Unit Unit → Prop}
    {accepts : ApiCall Unit → System Unit Unit → Bool}
    (honest : ∀ made request world,
      (answers made).respond request world (accepting request) world)
    (sound : ∀ request state, accepts request state = true →
      leavesWaiting "s" request = true ∧ permits sampleWorker request state)
    (requests : List (ApiCall Unit)) {state : System Unit Unit}
    (further : Further answers permits "s" paused state) :
    Further answers permits "s" paused (requests.foldl (submit accepts) state) := by
  induction requests generalizing state with
  | nil => exact further
  | cons request rest ih =>
      apply ih
      unfold submit
      dsimp only
      split
      · rename_i accepted
        obtain ⟨leaves, permitted⟩ := sound request state accepted.1
        have steps := simulate_steps (accepting_honest (honest request)) 60
          (request.program sampleWorker) state
        exact .session further ⟨sampleWorker, rfl, leaves, permitted, rfl⟩ steps accepted.2
      · exact further

theorem accepting_obliges (made : ApiCall Unit) (request : OutsideCall Unit) (world : Unit) :
    (obligesBatch "s" made).respond request world (accepting request) world := by
  have obliges : obliging.respond request world (accepting request) world := by
    cases request with
    | verify arguments invariants => exact ⟨"", rfl⟩
    | validate action => exact rfl
    | execute sagaId step => exact ⟨_, rfl, rfl⟩
    | _ => trivial
  cases made with
  | execute owner steps =>
      by_cases own : owner = "s"
      · rw [obligesBatch, if_pos own]
        exact obliges
      · rw [obligesBatch, if_neg own]
        trivial
  | _ => trivial

/-- Another saga is served to its end, and two batches on the waiting one execute
a step and skip it, and come to the same gate with more work behind it. -/
def resubmitted : System Unit Unit :=
  [ApiCall.start "t" "" "", .execute "t" [sampleStep "c" none],
    .execute "s" [sampleStep "b" (some "k"), gatedStep],
    .recover, .execute "s" [sampleStep "b" (some "k"), gatedStep, sampleStep "d" none]].foldl
    (submit fun request state => leavesWaiting "s" request &&
      comesBack "s" waitingSteps sampleWorker request state) paused

theorem longer_batches_wait : StillWaits "s" waitingSteps resubmitted ∧
    (resubmitted.store.effects "s").rows.map (fun effect => (effect.stepId, effect.state)) =
      [("b", .committed)] ∧ resubmitted.store.status? "t" = some .committed := by
  refine ⟨?_, by decide, by decide⟩
  apply waiting_work_is_kept paused_reached rfl
  apply submit_further accepting_obliges _ _ .start
  intro request state accepted
  exact Bool.and_eq_true_iff.mp accepted

/-- An empty batch commits the saga, and what waited can no longer be approved. -/
theorem empty_batch_takes_work : ¬∀ (start state : System Unit Unit) (sagaId : String)
    (pending : List (SagaStep Unit)), Reached start →
    posted start.memory sagaId = some (.awaitingApproval, pending) →
    Further (fun _ => anyone) (fun _ _ _ => True) sagaId start state →
    StillWaits sagaId pending state := by
  intro claim
  let emptied :=
    [ApiCall.execute "s" []].foldl (submit fun request _ => leavesWaiting "s" request) paused
  have further : Further (fun _ => anyone) (fun _ _ _ => True) "s" paused emptied := by
    apply submit_further (fun _ _ _ => trivial) _ _ .start
    exact fun request state accepted => ⟨accepted, trivial⟩
  have still := claim paused emptied "s" waitingSteps paused_reached rfl further
  have committed : emptied.store.status? "s" = some .committed := by decide
  have waiting := still.stored
  rw [committed] at waiting
  cases waiting

end Runs

end SagaMind.WaitingWork
