import SagaMind.Coordinator.Lifetime
import SagaMind.Coordinator.Turns
import SagaMind.Coordinator.Walk

/-!
# The approval gate

A step that requires approval is executed only by the call that approves it.
Approval is given to the first pending step as a resume takes the list out of
the saga, and that step does not wait again. So what waits in `active_sagas`,
and in the metadata that survives a restart, was never approved.
-/

namespace SagaMind.ApprovalGate

open CallProgram KeyedTable Coordinator Walk

set_option autoImplicit false

variable {Args : Type}

def firstPending (state : System Args Unit) (sagaId : String) : Option (SagaStep Args) :=
  (state.memory.active.find? sagaId).bind fun saga => saga.pendingSteps.head?

/-- The approval that a call gives: the saga, and the step that is first then. -/
def approval (state : System Args Unit) : ApiCall Args → Option (String × SagaStep Args)
  | .resume sagaId => (firstPending state sagaId).map fun first => (sagaId, first)
  | _ => none

/-- The step is the one that was approved, in whatever status it is now. -/
def Passes (grant : Option (String × SagaStep Args)) (sagaId : String) (step : SagaStep Args) :
    Prop :=
  ∃ first, grant = some (sagaId, first) ∧
    step = { first with approved := true, status := step.status }

def Granted (grant : Option (String × SagaStep Args)) : Call Args → Prop
  | .outside (.execute sagaId step) => step.requiresApproval = true → Passes grant sagaId step
  | _ => True

def Unapproved (steps : List (SagaStep Args)) : Prop := ∀ step ∈ steps, step.approved = false

def submitsUnapproved : ApiCall Args → Prop
  | .execute _ steps => Unapproved steps
  | _ => True

instance (request : ApiCall Args) : Decidable (submitsUnapproved request) :=
  match request with
  | .execute _ steps => inferInstanceAs (Decidable (∀ step ∈ steps, step.approved = false))
  | .start .. | .resume _ | .reject _ | .recover => inferInstanceAs (Decidable True)

structure Sealed (state : System Args Unit) : Prop where
  held : ∀ sagaId entry, posted state.memory sagaId = some entry → Unapproved entry.2
  stored : ∀ sagaId row, state.store.state.find? sagaId = some row →
    ∀ record ∈ row.metadata.pendingSteps.getD [], record.approved = false

section StateFacts

variable {state : System Args Unit}

def brought : MemoryCall Args → List (SagaStep Args)
  | .registerSaga saga => saga.pendingSteps
  | .setPending _ steps => steps
  | _ => []

theorem brought_or_posted (request : MemoryCall Args) (memory : Memory Args) {sagaId : String}
    {entry : SagaStatus × List (SagaStep Args)}
    (found : posted (request.serve memory).2 sagaId = some entry) :
    entry.2 = brought request ∨ ∃ old, posted memory sagaId = some old ∧ entry.2 = old.2 := by
  have assigned : ∀ (owner : String) (status : SagaStatus), ((posted memory sagaId).map fun entry =>
      if owner = sagaId then (status, entry.2) else entry) = some entry →
      ∃ old, posted memory sagaId = some old ∧ entry.2 = old.2 := by
    intro owner status found
    obtain ⟨old, held, rfl⟩ := Option.map_eq_some_iff.mp found
    refine ⟨old, held, ?_⟩
    split
    · rfl
    · rfl
  cases request with
  | lookupSaga owner => exact .inr ⟨entry, found, rfl⟩
  | completedSteps owner => exact .inr ⟨entry, found, rfl⟩
  | registerSaga saga =>
      change posted { memory with active := memory.active.put saga } sagaId = some entry at found
      rw [posted_put] at found
      split at found
      · rw [← Option.some.inj found]
        exact .inl rfl
      · exact .inr ⟨entry, found, rfl⟩
  | appendCompleted owner step =>
      rw [posted_append] at found
      exact .inr ⟨entry, found, rfl⟩
  | setStatus owner status =>
      rw [posted_set_status] at found
      exact .inr (assigned owner status found)
  | setStatusIfActive owner status =>
      rw [posted_set_status_if_active] at found
      exact .inr (assigned owner status found)
  | setPending owner steps =>
      rw [posted_set_pending] at found
      obtain ⟨old, held, rfl⟩ := Option.map_eq_some_iff.mp found
      split
      · exact .inl rfl
      · exact .inr ⟨old, held, rfl⟩
  | evictIfNeeded limit => exact .inr ⟨entry, posted_evict _ _ memory sagaId entry found, rfl⟩

theorem Sealed.remembers (closed : Sealed state) {request : MemoryCall Args}
    (fresh : Unapproved (brought request)) :
    Sealed { state with memory := (request.serve state.memory).2 } := by
  constructor
  · intro sagaId entry found
    rcases brought_or_posted request state.memory found with new | ⟨old, held, same⟩
    · rw [new]
      exact fresh
    · rw [same]
      exact closed.held sagaId old held
  · exact closed.stored

theorem Sealed.writes (closed : Sealed state) (sagaId : String) (status : SagaStatus)
    {metadata : Metadata Args}
    (fresh : ∀ record ∈ metadata.pendingSteps.getD [], record.approved = false) :
    Sealed { state with store := state.store.writeTransactionState sagaId status metadata } := by
  constructor
  · exact closed.held
  · intro owner row found
    dsimp only at found
    rw [Store.find_write_state] at found
    split at found
    · rename_i own
      rw [← Option.some.inj found]
      intro record member
      dsimp only [Metadata.update] at member
      cases given : metadata.pendingSteps with
      | some records =>
          rw [given] at fresh member
          exact fresh record member
      | none =>
          rw [given] at member
          unfold Store.metadata at member
          cases held : state.store.state.find? sagaId with
          | none =>
              rw [held] at member
              cases member
          | some old =>
              rw [held] at member
              exact closed.stored sagaId old held record member
    · exact closed.stored owner row found

theorem filed_sealed {before after : System Args Unit} (filed : Filed before after)
    (closed : Sealed before) : Sealed after := by
  constructor
  · intro sagaId entry found
    rw [filed.posted] at found
    exact closed.held sagaId entry found
  · intro sagaId row found
    rw [filed.state] at found
    exact closed.stored sagaId row found

theorem serialized_unapproved {steps : List (SagaStep Args)} (fresh : Unapproved steps) :
    ∀ record ∈ steps.map serializeStep, record.approved = false := by
  intro record member
  obtain ⟨step, waits, rfl⟩ := List.mem_map.mp member
  exact fresh step waits

theorem deserialized_unapproved {records : List (StepRecord Args)}
    (fresh : ∀ record ∈ records, record.approved = false) :
    Unapproved (records.map deserializeStep) := by
  intro step member
  obtain ⟨record, waits, rfl⟩ := List.mem_map.mp member
  exact fresh record waits

end StateFacts

section Batches

variable [DecidableEq Args] {grant : Option (String × SagaStep Args)} {self : Coordinator}
  {sagaId : String} {state : System Args Unit}

abbrev gated (grant : Option (String × SagaStep Args)) :
    Machine (coordinatorFace Args) (System Args Unit) :=
  running.guard fun request state => Granted grant request ∧ Sealed state

theorem serves_gated : Serves anyone (gated grant) := fun taken => taken

omit [DecidableEq Args] in
theorem clerical_granted {request : Call Args} (clerical : Clerical sagaId request) :
    Granted grant request := by
  rcases request with request | request | request
  · trivial
  · trivial
  · cases request with
    | execute owner step => exact clerical.elim
    | _ => trivial

theorem wp_clerk {Value : Type} {action : Action Args Value} (uses : Uses (Clerical sagaId) action)
    (closed : Sealed state) :
    wp (gated grant) action (fun _ => Sealed) (fun _ => Sealed) state := by
  apply wp_clerical _ _ uses closed
  · exact fun request state clerical closed => ⟨clerical_granted clerical, closed⟩
  · exact clerical_keeps serves_gated filed_sealed

theorem wp_remember {request : MemoryCall Args} {post : request.Answer → System Args Unit → Prop}
    {failed : PyError → System Args Unit → Prop} (closed : Sealed state)
    (fresh : Unapproved (brought request)) (done : ∀ answer after, Sealed after → post answer after) :
    wp (gated grant) (onMemory request) post failed state := by
  apply wp_served_memory serves_gated ⟨trivial, closed⟩
  apply done
  exact closed.remembers fresh

theorem wp_write {status : SagaStatus} {metadata : Metadata Args}
    {post : Unit → System Args Unit → Prop} {failed : PyError → System Args Unit → Prop}
    (fresh : ∀ record ∈ metadata.pendingSteps.getD [], record.approved = false)
    (closed : Sealed state) (done : ∀ after, Sealed after → post () after) :
    wp (gated grant) (onStore (.writeTransactionState sagaId status metadata)) post failed
      state := by
  apply wp_served_store serves_gated ⟨trivial, closed⟩
  apply done
  exact closed.writes sagaId status fresh

theorem wp_write_status {status : SagaStatus} {metadata : Metadata Args}
    {post : Unit → System Args Unit → Prop} {failed : PyError → System Args Unit → Prop}
    (fresh : ∀ record ∈ metadata.pendingSteps.getD [], record.approved = false)
    (closed : Sealed state) (done : ∀ after, Sealed after → post () after) :
    wp (gated grant) (self.writeStatus sagaId status metadata) post failed state := by
  unfold writeStatus
  rw [wp_ite]
  split
  · exact wp_write fresh closed done
  · exact done state closed

theorem wp_letter {stepName error : String} (closed : Sealed state) :
    wp (gated grant) (onStore (.pushDeadLetter sagaId stepName error)) (fun _ => Sealed)
      (fun _ _ => False) state := by
  apply wp_served_store serves_gated ⟨trivial, closed⟩
  exact ⟨closed.held, closed.stored⟩

omit [DecidableEq Args] in
theorem none_unapproved : ∀ record ∈ (none : Option (List (StepRecord Args))).getD [],
    record.approved = false :=
  fun _ member => absurd member List.not_mem_nil

omit [DecidableEq Args] in
theorem nothing_unapproved : Unapproved ([] : List (SagaStep Args)) :=
  fun _ member => absurd member List.not_mem_nil

theorem wp_handle_failure {step : SagaStep Args} {error : String} (closed : Sealed state) :
    wp (gated grant) (self.handleCompensationFailure sagaId step error) (fun _ => Sealed)
      (fun _ _ => False) state := by
  have recorded : ∀ {between : System Args Unit}, Sealed between →
      wp (gated grant) (self.recordCompensationFailure sagaId step.stepId error)
        (fun _ => Sealed) (fun _ _ => False) between := by
    intro between closed
    apply wp_record_failure _ _ closed
    · exact fun request state clerical closed => ⟨clerical_granted clerical, closed⟩
    · exact clerical_keeps serves_gated filed_sealed
  unfold handleCompensationFailure
  rw [wp_bind]
  apply wp_remember closed
  · exact nothing_unapproved
  intro _ between closed
  rw [wp_ite]
  split
  · rw [wp_bind]
    apply wp_write none_unapproved closed
    intro between closed
    apply wp_seq (recorded closed)
    exact fun _ _ closed => wp_letter closed
  · exact closed

theorem wp_dead_letter {stepName error : String} (closed : Sealed state) :
    wp (gated grant) (deadLetterRecovery sagaId stepName error) (fun _ => Sealed)
      (fun _ _ => False) state := by
  unfold deadLetterRecovery
  rw [wp_bind]
  apply wp_write none_unapproved closed
  exact fun between closed => wp_letter closed

/-- Only the first step ahead may be approved, and only as the call grants it. -/
def Queued (grant : Option (String × SagaStep Args)) (sagaId : String) :
    List (SagaStep Args) → Prop
  | [] => True
  | step :: rest => (step.approved = true → Passes grant sagaId step) ∧ Unapproved rest

omit [DecidableEq Args] in
theorem queued_unapproved {steps : List (SagaStep Args)} (fresh : Unapproved steps) :
    Queued grant sagaId steps := by
  cases steps with
  | nil => trivial
  | cons step rest =>
      constructor
      · intro approved
        rw [fresh step (List.mem_cons_self ..)] at approved
        cases approved
      · exact fun other member => fresh other (List.mem_cons_of_mem _ member)

/-- A batch passes its gate with the step that was approved, and pauses with
steps that were not. -/
def passage [Inhabited Args] (self : Coordinator) (grant : Option (String × SagaStep Args))
    (sagaId : String) : Outline (gated grant) self sagaId where
  queue := Queued grant sagaId
  working := Sealed
  falling := Sealed
  rolling := fun _ => Sealed
  undone := Sealed
  finished := Sealed
  restatus := by
    intro step rest status ⟨head, fresh⟩
    refine ⟨fun approved => ?_, fresh⟩
    obtain ⟨first, given, same⟩ := head approved
    refine ⟨first, given, ?_⟩
    rw [same]
  moves := fun queue => queued_unapproved queue.2
  falls := id
  ends := id
  rests := id
  asks := fun uses closed => wp_clerk (enquiry_clerical sagaId uses) closed
  executes := by
    intro step rest state ⟨head, _⟩ pass closed
    apply wp_performs _ _ closed
    · intro request state performs closed
      rcases performs with clerical | rfl
      · exact ⟨clerical_granted clerical, closed⟩
      · exact ⟨fun gated => head (pass gated), closed⟩
    · exact performs_keeps serves_gated filed_sealed
  pauses := by
    intro step rest state ⟨_, fresh⟩ _ unapproved closed
    have waits : Unapproved (step :: rest) := by
      intro other member
      rcases List.mem_cons.mp member with rfl | later
      · exact unapproved
      · exact fresh other later
    unfold pauseWith
    rw [wp_bind]
    apply wp_remember closed
    · exact nothing_unapproved
    intro _ between closed
    rw [wp_bind]
    apply wp_remember closed
    · exact waits
    intro _ between closed
    exact wp_write_status (serialized_unapproved waits) closed fun _ closed => closed
  commits := by
    intro state closed
    unfold closeBatch
    rw [wp_bind]
    apply wp_remember closed
    · exact nothing_unapproved
    intro _ between closed
    rw [wp_bind]
    apply wp_write_status none_unapproved closed
    intro between closed
    exact wp_remember closed nothing_unapproved fun _ _ closed => closed
  enters := by
    intro state closed
    rw [wp_bind]
    apply wp_write_status none_unapproved closed
    intro between closed
    exact wp_remember closed nothing_unapproved fun _ _ closed => closed
  undoes := by
    intro step rest state closed
    apply wp_undo_step _ _ _ closed
    · exact fun uses closed => wp_clerk uses closed
    · exact fun closed => wp_handle_failure closed
    · exact fun impossible => impossible.elim
  closes := by
    intro state closed
    unfold closeRollback
    rw [wp_bind]
    apply wp_remember closed
    · exact nothing_unapproved
    intro _ between closed
    exact wp_write_status none_unapproved closed fun _ closed => closed
  quarantines := by
    intro step state closed
    unfold quarantineStep
    rw [wp_bind, wp_attempt, wp_bind]
    apply wp_mono (wp_clerk clerical_transition closed)
    · exact fun _ _ closed => wp_dead_letter closed
    · exact fun _ _ closed => wp_dead_letter closed

/-- A call on one saga executes past its gate only what it approves. -/
theorem call_gated [Inhabited Args] {request : ApiCall Args}
    (own : request.sagaId? = some sagaId) (fresh : submitsUnapproved request)
    (closed : Sealed state) :
    wp (gated (approval state request)) (request.program self) (fun _ => Sealed)
      (fun _ => Sealed) state := by
  apply (passage self (approval state request) sagaId).request (fun taken => serves_gated taken)
  · exact fun closed => ⟨trivial, closed⟩
  · exact own
  · exact closed
  · intro _
    cases request with
    | start owner goal tenantId =>
        dsimp only [Entrance]
        unfold openSaga
        rw [wp_bind]
        apply wp_remember closed
        · exact nothing_unapproved
        intro _ between closed
        exact wp_write_status none_unapproved closed fun _ closed => closed
    | execute owner steps => exact ⟨closed, queued_unapproved fresh⟩
    | resume owner =>
        obtain rfl := Option.some.inj own
        intro saga found
        have waits : Unapproved saga.pendingSteps := by
          apply closed.held owner (saga.status, saga.pendingSteps)
          unfold posted
          rw [found]
          rfl
        constructor
        · dsimp only [passage]
          cases pending : saga.pendingSteps with
          | nil => trivial
          | cons first rest =>
              rw [pending] at waits
              constructor
              · intro _
                refine ⟨first, ?_, rfl⟩
                have head : firstPending state owner = some first := by
                  unfold firstPending
                  rw [found, Option.bind_some, pending]
                  rfl
                dsimp only [approval]
                rw [head]
                rfl
              · exact fun other member => waits other (List.mem_cons_of_mem _ member)
        · unfold takePending
          rw [wp_bind]
          apply wp_remember closed
          · exact nothing_unapproved
          intro _ between closed
          rw [wp_bind]
          apply wp_remember closed
          · exact nothing_unapproved
          intro _ between closed
          exact wp_write_status none_unapproved closed fun _ closed => closed
    | reject owner =>
        dsimp only [Entrance]
        unfold dropPending
        rw [wp_bind]
        apply wp_remember closed
        · exact nothing_unapproved
        intro _ between closed
        exact wp_write_status none_unapproved closed fun _ closed => closed
    | recover => trivial

end Batches

section Recovery

variable [DecidableEq Args] {grant : Option (String × SagaStep Args)} {self : Coordinator}
  {sagaId : String} {state : System Args Unit}

omit [DecidableEq Args] in
theorem settle_granted {request : Call Args} (settle : SettleCall sagaId request) :
    Granted grant request := by
  rcases request with request | request | request
  · trivial
  · trivial
  · cases request with
    | execute owner step => exact settle.elim
    | _ => trivial

theorem settle_sealed {request : Call Args} {before after : System Args Unit}
    {reply : Except PyError request.Answer} (settle : SettleCall sagaId request)
    (closed : Sealed before) (taken : serveCall anyone request before reply after) :
    Sealed after := by
  rcases request with request | request | request
  · exact settle.elim
  · obtain ⟨-, rfl⟩ := taken
    have filed : (∀ owner status metadata, request ≠ .writeTransactionState owner status metadata) →
        Sealed (afterStore anyone request before) := by
      intro other
      constructor
      · exact closed.held
      · intro owner row found
        apply closed.stored owner row
        rw [← rows_kept before.store other]
        exact found
    cases request with
    | writeTransactionState owner status metadata =>
        apply closed.writes owner status
        rw [settle.2.2]
        exact none_unapproved
    | _ => exact filed fun _ _ _ same => by cases same
  · obtain ⟨world, -, rfl⟩ := taken
    exact ⟨closed.held, closed.stored⟩

/-- A restored saga waits with the steps that its metadata holds. -/
theorem wp_recover_saga {saga : IncompleteSaga Args} (listed : Listed saga state.store)
    (closed : Sealed state) :
    wp (gated grant) (self.recoverSaga saga) (fun _ => Sealed) (fun _ => Sealed) state := by
  cases waits : awaitsApproval saga.status saga.metadata with
  | true =>
      obtain ⟨row, found, _, same⟩ := listed.row
      have fresh := closed.stored saga.sagaId row found
      rw [same] at fresh
      unfold recoverSaga
      rw [if_pos waits, wp_bind]
      apply wp_remember closed
      · exact deserialized_unapproved fresh
      · exact fun _ _ closed => closed
  | false =>
      apply wp_mono (wp_maintains _ _ (self.recovery_settle_saga waits ()) closed)
      · exact fun _ _ reached => reached.2
      · exact fun _ _ reached => reached.2
      · exact fun request state settle closed => ⟨settle_granted settle, closed⟩
      · exact fun request before reply after settle closed taken =>
          settle_sealed settle closed taken

theorem wp_recover_all (closed : Sealed state) :
    wp (gated grant) self.recover (fun _ => Sealed) (fun _ => Sealed) state := by
  unfold recover
  rw [wp_ite]
  split
  · rw [wp_bind]
    apply wp_served_store serves_gated ⟨trivial, closed⟩
    apply wp_each_saga serves_gated
    · exact fun listed closed => wp_recover_saga listed closed
    · exact fun saga member => list_incomplete_listed member
    · exact list_incomplete_distinct _
    · exact ⟨closed.held, closed.stored⟩
  · exact closed

end Recovery

section Runs

variable [DecidableEq Args] [Inhabited Args] {self : Coordinator} {before after : System Args Unit}

theorem every_call_gated {request : ApiCall Args} (fresh : submitsUnapproved request)
    (closed : Sealed before) :
    wp (gated (approval before request)) (request.program self) (fun _ => Sealed)
      (fun _ => Sealed) before := by
  cases own : request.sagaId? with
  | some sagaId => exact call_gated own fresh closed
  | none =>
      cases request with
      | recover =>
          unfold ApiCall.program
          rw [wp_void]
          exact wp_recover_all closed
      | start | execute | resume | reject => cases own

/-- The life of a deployment with steps submitted unapproved. -/
abbrev Submissions : System Args Unit → Prop :=
  Lifetime anyone (fun _ => True) (fun request _ => submitsUnapproved request) (fun _ => True)
    ⟨.empty, .empty, ()⟩

theorem submissions_sealed (lives : Submissions before) : Sealed before := by
  apply lives_invariant _ _ _ _ lives
  · exact Sealed
  · constructor
    · intro sagaId entry found
      cases found
    · intro sagaId row found
      cases found
  · exact fun state closed => closed
  · intro program state closed made
    obtain ⟨worker, request, _, fresh, rfl⟩ := made
    have run := @every_call_gated Args _ _ worker state request fresh closed
    apply wp_guard_mono _ run
    exact fun _ _ kept => kept.2
  · intro state closed _
    constructor
    · intro sagaId entry found
      cases found
    · exact closed.stored

/-- Over the whole life of a deployment, with crashes and recoveries anywhere, a
step that requires approval is executed only by a resume of its saga that was
called while it was the first pending step. -/
theorem gate_is_never_bypassed (lives : Submissions before) {request : ApiCall Args}
    (fresh : submitsUnapproved request) {later : Action Args Unit}
    (steps : Steps running (request.program self) before later after) {sagaId : String}
    {step : SagaStep Args} (executes : later.next? = some (.outside (.execute sagaId step)))
    (gated : step.requiresApproval = true) :
    request = .resume sagaId ∧ ∃ first, firstPending before sagaId = some first ∧
      step = { first with approved := true, status := step.status } := by
  have run := @every_call_gated Args _ _ self before request fresh (submissions_sealed lives)
  obtain ⟨granted, _⟩ := wp_next run (steps.guard _) executes
  obtain ⟨first, given, same⟩ := granted gated
  cases request with
  | resume owner =>
      obtain ⟨head, found, pair⟩ := Option.map_eq_some_iff.mp given
      obtain ⟨rfl, rfl⟩ := Prod.mk.inj pair
      exact ⟨rfl, head, found, same⟩
  | start | execute | reject | recover => cases given

def gatedStep : SagaStep Unit := { sampleStep "a" none with requiresApproval := true }

/-- A batch pauses at its step, a crash strikes as the operator approves it, and
a recovery restores the saga. -/
def restored : System Unit Unit :=
  rehearsedLife anyone accepting (fun _ request => submitsUnapproved request) (fun _ => true)
    ⟨.empty, .empty, ()⟩
    [(.start "s" "" "", none), (.execute "s" [gatedStep], none), (.resume "s", some 0),
      (.recover, none)]

theorem restored_lives : Submissions restored := by
  have honest : ∀ (request : OutsideCall Unit) (world : Unit),
      anyone.respond request world (accepting request) world := fun _ _ => trivial
  apply rehearsed_life_reached honest
  · trivial
  · exact fun _ _ passed => of_decide_eq_true passed
  · exact fun _ _ => trivial

def resumed : Action Unit Unit × System Unit Unit :=
  simulate (answerWith anyone fun request world => (accepting request, world)) 9
    (ApiCall.program sampleWorker (.resume "s")) restored

theorem restored_step_approved :
    resumed.1.next? = some (.outside (.execute "s" { gatedStep with
      approved := true, status := .running })) ∧
    ∃ first, firstPending restored "s" = some first ∧
      ({ gatedStep with approved := true, status := .running } : SagaStep Unit) =
        { first with approved := true, status := .running } := by
  have steps : Steps running (ApiCall.program sampleWorker (.resume "s")) restored resumed.1
      resumed.2 := simulate_steps (answer_with_honest fun _ _ => trivial) 9 _ _
  have executes : resumed.1.next? = some (.outside (.execute "s" { gatedStep with
      approved := true, status := .running })) := by rfl
  have fresh : submitsUnapproved (.resume "s" : ApiCall Unit) := trivial
  have passed := gate_is_never_bypassed restored_lives fresh steps executes rfl
  exact ⟨executes, passed.2⟩

end Runs

end SagaMind.ApprovalGate
