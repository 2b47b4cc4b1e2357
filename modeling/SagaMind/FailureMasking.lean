import SagaMind.Coordinator.Lifetime
import SagaMind.Coordinator.Walk

/-!
# A failed compensation stays on record

No call of the coordinator asks what the durable status of a saga is before it
writes another. Where every call that passes its own entry check works on a saga
that is not `COMPENSATION_FAILED`, that status is never overwritten: within one
call it is the last word on the saga, and recovery does not list the saga again.
-/

namespace SagaMind.FailureMasking

open CallProgram KeyedTable Coordinator Walk

set_option autoImplicit false

variable {Args : Type}

/-- The sagas that were ever marked `COMPENSATION_FAILED`. -/
def failures : (request : StoreCall Args) → Except PyError request.Answer → List String →
    List String
  | .writeTransactionState sagaId .compensationFailed _, _, failed => sagaId :: failed
  | _, _, failed => failed

def recording : Outside Args (List String) where
  respond := fun _ before _ after => after = before
  observe := failures

/-- Every saga that was ever marked is marked still. -/
def Unmasked (state : System Args (List String)) : Prop :=
  ∀ sagaId ∈ state.world, state.store.status? sagaId = some .compensationFailed

def sparesFailed (request : ApiCall Args) (state : System Args (List String)) : Bool :=
  request.sagaId?.all fun sagaId =>
    state.store.status? sagaId ≠ some .compensationFailed || !request.enters state.memory

/-- The write does not replace the mark by another status. -/
def Truthful (request : Call Args) (state : System Args (List String)) : Prop :=
  ∀ sagaId status metadata, request = .store (.writeTransactionState sagaId status metadata) →
    state.store.status? sagaId = some .compensationFailed → status = .compensationFailed

section Batches

variable [DecidableEq Args] {self : Coordinator} {sagaId : String}
  {state : System Args (List String)}

abbrev truthful : Machine (coordinatorFace Args) (System Args (List String)) :=
  (machine recording fun _ => True).guard Truthful

theorem serves_truthful : Serves recording (truthful : Machine (coordinatorFace Args) _) :=
  fun taken => taken

/-- The saga is not marked. -/
abbrev Open (sagaId : String) (state : System Args (List String)) : Prop :=
  state.store.status? sagaId ≠ some .compensationFailed

omit [DecidableEq Args] in
theorem truthful_memory (request : MemoryCall Args) : Truthful (.memory request) state := by
  intro owner status metadata same
  cases same

omit [DecidableEq Args] in
theorem truthful_outside (request : OutsideCall Args) : Truthful (.outside request) state := by
  intro owner status metadata same
  cases same

omit [DecidableEq Args] in
theorem truthful_letter (stepName error : String) :
    Truthful (.store (.pushDeadLetter sagaId stepName error) : Call Args) state := by
  intro owner status metadata same
  cases same

omit [DecidableEq Args] in
theorem truthful_list : Truthful (.store .listIncomplete : Call Args) state := by
  intro owner status metadata same
  cases same

/-- A step lemma: after a truthful call the marks are where they were. -/
theorem unmasked_step {request : Call Args} {before after : System Args (List String)}
    {reply : Except PyError request.Answer} (honest : Truthful request before)
    (unmasked : Unmasked before) (taken : serveCall recording request before reply after) :
    Unmasked after := by
  rcases request with request | request | request
  · obtain ⟨-, rfl⟩ := taken
    exact unmasked
  · obtain ⟨-, rfl⟩ := taken
    by_cases writes : ∃ owner status metadata, request = .writeTransactionState owner status metadata
    · obtain ⟨owner, status, metadata, rfl⟩ := writes
      intro sagaId member
      change (before.store.writeTransactionState owner status metadata).status? sagaId = _
      rw [Store.status_write_state]
      by_cases marks : status = .compensationFailed
      · subst marks
        split
        · rfl
        · rename_i apart
          apply unmasked
          exact (List.mem_cons.mp member).resolve_left fun same => apart same.symm
      · have same : failures (.writeTransactionState owner status metadata) (.ok ()) before.world =
            before.world := by
          cases status <;> first | rfl | exact absurd rfl marks
        have marked : sagaId ∈ before.world := same ▸ member
        rw [if_neg]
        · exact unmasked sagaId marked
        · rintro rfl
          exact marks (honest owner status metadata rfl (unmasked owner marked))
    · have other : ∀ owner status metadata,
          request ≠ .writeTransactionState owner status metadata := by
        rintro owner status metadata rfl
        exact writes ⟨_, _, _, rfl⟩
      have same : ∀ reply, failures request reply before.world = before.world := by
        intro reply
        cases request with
        | writeTransactionState owner status metadata => exact absurd rfl (other owner status metadata)
        | _ => rfl
      intro sagaId member
      change ((request.serve before.store).2.state.find? sagaId).map _ = _
      rw [rows_kept before.store other]
      exact unmasked sagaId (same _ ▸ member)
  · obtain ⟨world, rfl, rfl⟩ := taken
    exact unmasked

/-- Calls that write no status leave the saga open, and the rest may follow. -/
theorem wp_keep_open {request : MemoryCall Args}
    {post : request.Answer → System Args (List String) → Prop}
    {failed : PyError → System Args (List String) → Prop} (here : Open sagaId state)
    (done : ∀ answer after, Open sagaId after → post answer after) :
    wp truthful (onMemory request) post failed state := by
  apply wp_served_memory serves_truthful
  · exact truthful_memory _
  · apply done
    exact here

theorem wp_open_status {status : SagaStatus} {metadata : Metadata Args}
    {post : Unit → System Args (List String) → Prop}
    {failed : PyError → System Args (List String) → Prop} (here : Open sagaId state)
    (unmarked : status ≠ .compensationFailed)
    (done : ∀ after, Open sagaId after → post () after) :
    wp truthful (self.writeStatus sagaId status metadata) post failed state := by
  unfold writeStatus
  rw [wp_ite]
  split
  · apply wp_served_store serves_truthful
    · intro owner other written same marked
      cases same
      exact absurd marked here
    · apply done
      change (state.store.writeTransactionState sagaId status metadata).status? sagaId ≠ _
      rw [Store.status_write_state, if_pos rfl]
      exact fun marked => unmarked (Option.some.inj marked)
  · exact done state here

theorem wp_mark {metadata : Metadata Args} {post : Unit → System Args (List String) → Prop}
    {failed : PyError → System Args (List String) → Prop} (done : ∀ after, post () after) :
    wp truthful (onStore (.writeTransactionState sagaId .compensationFailed metadata)) post failed
      state := by
  apply wp_served_store serves_truthful
  · intro owner other written same _
    cases same
    rfl
  · exact done _

theorem wp_letter {stepName error : String} {post : Unit → System Args (List String) → Prop}
    {failed : PyError → System Args (List String) → Prop} (done : ∀ after, post () after) :
    wp truthful (onStore (.pushDeadLetter sagaId stepName error)) post failed state := by
  apply wp_served_store serves_truthful
  · exact truthful_letter stepName error
  · exact done _

omit [DecidableEq Args] in
theorem clerical_truthful {request : Call Args} (clerical : Clerical sagaId request) :
    Truthful request state := by
  rintro owner status metadata rfl
  exact clerical.elim

omit [DecidableEq Args] in
theorem filed_open {before after : System Args (List String)} (filed : Filed before after)
    (here : Open sagaId before) : Open sagaId after := by
  unfold Open Store.status?
  rw [filed.state]
  exact here

theorem wp_clerk {Value : Type} {action : Action Args Value} (uses : Uses (Clerical sagaId) action)
    (here : Open sagaId state) :
    wp truthful action (fun _ => Open sagaId) (fun _ => Open sagaId) state := by
  apply wp_clerical _ _ uses here
  · exact fun request state clerical _ => clerical_truthful clerical
  · exact clerical_keeps serves_truthful filed_open

theorem wp_handle_failure {step : SagaStep Args} {error : String} :
    wp truthful (self.handleCompensationFailure sagaId step error) (fun _ _ => True)
      (fun _ _ => False) state := by
  have recorded : ∀ between : System Args (List String),
      wp truthful (self.recordCompensationFailure sagaId step.stepId error) (fun _ _ => True)
        (fun _ _ => False) between := by
    intro between
    apply @wp_record_failure Args _ truthful self sagaId fun _ => True
    · exact fun request state clerical _ => clerical_truthful clerical
    · exact fun _ _ _ _ _ _ _ => trivial
    · trivial
  unfold handleCompensationFailure
  rw [wp_bind]
  apply wp_served_memory serves_truthful
  · exact truthful_memory _
  · rw [wp_ite]
    split
    · rw [wp_bind]
      apply wp_mark
      intro between
      apply wp_seq (recorded between)
      exact fun _ _ _ => wp_letter fun _ => trivial
    · trivial

theorem wp_dead_letter_recovery {stepName error : String} :
    wp truthful (deadLetterRecovery sagaId stepName error) (fun _ _ => True) (fun _ _ => False)
      state := by
  unfold deadLetterRecovery
  rw [wp_bind]
  apply wp_mark
  exact fun _ => wp_letter fun _ => trivial

/-- The saga is open until the batch has marked it, and then nothing follows. -/
def openUntilMarked [Inhabited Args] (self : Coordinator) (sagaId : String) :
    Outline (truthful : Machine (coordinatorFace Args) _) self sagaId where
  queue := fun _ => True
  working := Open sagaId
  falling := Open sagaId
  rolling := fun _ => Open sagaId
  undone := fun _ => True
  finished := fun _ => True
  restatus := fun _ _ => trivial
  moves := fun _ => trivial
  falls := id
  ends := fun _ => trivial
  rests := id
  asks := fun uses here => wp_clerk (enquiry_clerical sagaId uses) here
  executes := by
    intro step rest state _ _ here
    apply wp_performs _ _ here
    · intro request state performs _
      rcases performs with clerical | rfl
      · exact clerical_truthful clerical
      · exact truthful_outside _
    · exact performs_keeps serves_truthful filed_open
  pauses := by
    intro step rest state _ _ _ here
    unfold pauseWith
    rw [wp_bind]
    apply wp_keep_open here
    intro _ between here
    rw [wp_bind]
    apply wp_keep_open here
    intro _ between here
    exact wp_open_status here (by decide) fun _ _ => trivial
  commits := by
    intro state here
    unfold closeBatch
    rw [wp_bind]
    apply wp_keep_open here
    intro _ between here
    rw [wp_bind]
    apply wp_open_status here (by decide)
    intro after here
    exact wp_keep_open here fun _ _ _ => trivial
  enters := by
    intro state here
    rw [wp_bind]
    apply wp_open_status here (by decide)
    intro after here
    exact wp_keep_open here fun _ _ here => here
  undoes := by
    intro step rest state here
    apply wp_undo_step _ _ _ here
    · exact fun uses here => wp_clerk uses here
    · exact fun _ => wp_handle_failure
    · exact fun impossible => impossible.elim
  closes := by
    intro state here
    unfold closeRollback
    rw [wp_bind]
    apply wp_keep_open here
    intro _ between here
    exact wp_open_status here (by decide) fun _ _ => trivial
  quarantines := by
    intro step state _
    have records : wp truthful (onStore (.transitionEffect sagaId step.stepId [.executing]
        .ambiguous none (some "forward effect raised before its outcome was durably recorded")))
        (fun _ _ => True) (fun _ _ => True) state := by
      apply @wp_clerical Args _ truthful sagaId (fun _ => True)
      · exact fun request state clerical _ => clerical_truthful clerical
      · exact fun _ _ _ _ _ _ _ => trivial
      · exact clerical_transition
      · trivial
    unfold quarantineStep
    rw [wp_bind, wp_attempt, wp_bind]
    apply wp_mono records
    · exact fun effect between _ => wp_dead_letter_recovery
    · exact fun error between _ => wp_dead_letter_recovery

theorem call_truthful [Inhabited Args] {request : ApiCall Args}
    (own : request.sagaId? = some sagaId)
    (spared : request.enters state.memory = true → Open sagaId state) :
    wp truthful (request.program self) (fun _ _ => True) (fun _ _ => True) state := by
  apply (openUntilMarked self sagaId).request (fun taken => serves_truthful taken)
  · exact fun _ => truthful_memory _
  · exact own
  · trivial
  · intro entered
    have here := spared entered
    cases request with
    | start owner goal tenantId =>
        dsimp only [Entrance]
        unfold openSaga
        rw [wp_bind]
        apply wp_keep_open here
        intro _ between here
        exact wp_open_status here (by decide) fun _ _ => trivial
    | execute owner steps => exact ⟨here, trivial⟩
    | resume owner =>
        intro saga found
        refine ⟨trivial, ?_⟩
        unfold takePending
        rw [wp_bind]
        apply wp_keep_open here
        intro _ between here
        rw [wp_bind]
        apply wp_keep_open here
        intro _ between here
        exact wp_open_status here (by decide) fun _ here => here
    | reject owner =>
        dsimp only [Entrance]
        unfold dropPending
        rw [wp_bind]
        apply wp_keep_open here
        intro _ between here
        exact wp_open_status here (by decide) fun _ here => here
    | recover => trivial

end Batches

section Recovery

variable [DecidableEq Args] {self : Coordinator} {sagaId : String}
  {state : System Args (List String)}

omit [DecidableEq Args] in
theorem recoverable_open (alive : Recoverable state.store sagaId) : Open sagaId state := by
  obtain ⟨status, written, working⟩ := recoverable_status alive
  unfold Open
  rw [written]
  intro marked
  obtain rfl := Option.some.inj marked
  cases working

theorem walk_truthful {Value : Type} {action : Action Args Value}
    (uses : Uses (WalkCall sagaId) action) {post : Value → System Args (List String) → Prop}
    {failed : PyError → System Args (List String) → Prop}
    (run : wp (machine recording fun _ => True) action post failed state) :
    wp truthful action post failed state := by
  apply wp_guard_mono _ (wp_uses uses run)
  rintro request before ⟨-, walk⟩ owner status metadata rfl _
  exact walk.2.1

theorem recover_saga_truthful {saga : IncompleteSaga Args} (listed : Listed saga state.store) :
    wp truthful (self.recoverSaga saga) (fun _ _ => True) (fun _ _ => False) state := by
  have write : ∀ {between : System Args (List String)} {metadata : Metadata Args},
      Open saga.sagaId between → wp truthful
        (onStore (.writeTransactionState saga.sagaId .rolledBack metadata)) (fun _ _ => True)
        (fun _ _ => False) between := by
    intro between metadata here
    apply wp_served_store serves_truthful
    · intro owner status written same marked
      cases same
      exact absurd marked here
    · trivial
  unfold recoverSaga
  rw [wp_ite]
  split
  · rw [wp_bind]
    apply wp_served_memory serves_truthful
    · exact truthful_memory _
    · trivial
  · rename_i working
    have walking := listed.walking (by simpa using working)
    rw [wp_ite]
    split
    · have walked : wp (machine recording fun _ => True)
          (self.recoverEffects saga.sagaId saga.effects.reverse)
          (fun goOn after => goOn = true → Recoverable after.store saga.sagaId)
          (fun _ _ => False) state := by
        apply wp_recover_effects unguarded_grounds _ walking
        constructor
        · exact fun after done _ => done.alive
        · exact fun after lettered impossible => nomatch impossible
      apply wp_seq (walk_truthful (self.recovery_recover_effects _) walked)
      intro goOn between alive
      cases goOn with
      | true =>
          rw [if_pos rfl, wp_bind]
          exact write (recoverable_open (alive rfl))
      | false => trivial
    · have replayed : wp (machine recording fun _ => True)
          (replayCompensations saga.sagaId saga.compensations.reverse)
          (fun _ after => Open saga.sagaId after) (fun _ _ => False) state := by
        apply wp_replay_compensations _ fun _ => trivial
        exact fun outcome world => recoverable_open walking.alive
      apply wp_seq (walk_truthful (recovery_replay_compensations _) replayed)
      intro outcome between here
      cases outcome with
      | some error =>
          rw [wp_bind]
          apply wp_mark
          intro marked
          rw [wp_bind]
          exact wp_letter fun _ => trivial
      | none =>
          rw [wp_bind]
          exact write here

theorem recover_truthful :
    wp truthful self.recover (fun _ _ => True) (fun _ _ => False) state := by
  unfold recover
  rw [wp_ite]
  split
  · rw [wp_bind]
    apply wp_served_store serves_truthful
    · exact truthful_list
    · apply @wp_each_saga Args _ _ recording self truthful serves_truthful fun _ => True
      · exact fun listed _ => recover_saga_truthful listed
      · exact fun saga member => list_incomplete_listed member
      · exact list_incomplete_distinct _
      · trivial
  · trivial

end Recovery

section Runs

variable [DecidableEq Args] [Inhabited Args] {self : Coordinator}
  {state : System Args (List String)}

/-- No call goes in on a saga that is marked. -/
abbrev Spares (request : ApiCall Args) (state : System Args (List String)) : Prop :=
  sparesFailed request state = true

omit [DecidableEq Args] [Inhabited Args] in
theorem spares_recover (state : System Args (List String)) : Spares .recover state := rfl

theorem every_call_truthful (request : ApiCall Args) (spares : Spares request state) :
    wp truthful (request.program self) (fun _ _ => True) (fun _ _ => True) state := by
  cases own : request.sagaId? with
  | none =>
      cases request with
      | recover =>
          unfold ApiCall.program
          rw [wp_void]
          apply wp_mono recover_truthful
          · exact fun _ _ _ => trivial
          · exact fun _ _ _ => trivial
      | start | execute | resume | reject => cases own
  | some sagaId =>
      apply call_truthful own
      intro entered
      unfold Spares sparesFailed at spares
      rw [own, Option.all_some, entered] at spares
      simpa using spares

theorem every_call_unmasked (request : ApiCall Args) (spares : Spares request state)
    (unmasked : Unmasked state) :
    wp ((machine recording fun _ => True).guard fun _ => Unmasked) (request.program self)
      (fun _ => Unmasked) (fun _ => Unmasked) state := by
  have kept := @wp_invariant (coordinatorFace Args) (System Args (List String)) PyError Unit truthful
    Unmasked (fun _ _ _ _ honest unmasked taken => unmasked_step honest unmasked taken)
    (request.program self) _ _ state (every_call_truthful request spares) unmasked
  apply wp_mono kept
  · exact fun _ _ ends => ends.2
  · exact fun _ _ ends => ends.2

/-- At every point of every run, restarts after a crash anywhere included, the
sagas that were ever marked `COMPENSATION_FAILED` are marked, as long as no call
passes its entry check on such a saga. -/
theorem failed_compensations_stay_on_record {before after : System Args (List String)}
    (lives : Lifetime recording (·.hasStore = true) Spares (fun _ => True)
      ⟨.empty, .empty, []⟩ before) {request : ApiCall Args} (spares : Spares request before)
    {later : Action Args Unit}
    (steps : Steps (machine recording fun _ => True) (request.program self) before later after) :
    Unmasked after := by
  have rule := @lives_invariant (coordinatorFace Args) PyError Unit (System Args (List String))
    (machine recording fun _ => True) (Made (·.hasStore = true) Spares) (fun _ => True) restart
    ⟨.empty, .empty, []⟩ before Unmasked Unmasked
  have unmasked : Unmasked before := by
    apply rule _ _ _ _ lives
    · exact fun sagaId member => absurd member List.not_mem_nil
    · exact fun _ unmasked => unmasked
    · intro program state unmasked made
      obtain ⟨worker, request, _, spares, rfl⟩ := made
      exact every_call_unmasked request spares unmasked
    · exact fun _ unmasked _ => unmasked
  apply wp_cut (every_call_unmasked request spares unmasked) _ _ _ (steps.guard _)
  · exact fun _ _ unmasked => unmasked
  · exact fun _ _ unmasked => unmasked
  · exact fun _ _ unmasked => unmasked

def resubmitted (accepts : System Unit (List String) → ApiCall Unit → Bool) :
    System Unit (List String) :=
  rehearsedLife recording failing accepts (fun _ => true) ⟨.empty, .empty, []⟩
    [(.start "s" "" "", none), (.execute "s" [sampleStep "a" none, sampleStep "b" none], none),
      (.execute "s" [], none)]

theorem resubmitted_lives {admits : ApiCall Unit → System Unit (List String) → Prop}
    {accepts : System Unit (List String) → ApiCall Unit → Bool}
    (admitted : ∀ state request, accepts state request = true → admits request state) :
    Lifetime recording (·.hasStore = true) admits (fun _ => True) ⟨.empty, .empty, []⟩
      (resubmitted accepts) := by
  have honest : ∀ (request : OutsideCall Unit) (failed : List String),
      recording.respond request failed (failing request) failed := fun _ _ => rfl
  apply rehearsed_life_reached honest
  · rfl
  · exact admitted
  · exact fun _ _ => trivial

/-- Turned away, the empty batch leaves the mark, and so does a recovery. -/
theorem spared_stays_on_record :
    Unmasked (resubmitted fun state request => sparesFailed request state) := by
  have lives : Lifetime recording (·.hasStore = true) Spares (fun _ => True) ⟨.empty, .empty, []⟩
      (resubmitted fun state request => sparesFailed request state) :=
    resubmitted_lives fun _ _ passed => passed
  exact @failed_compensations_stay_on_record Unit _ _ sampleWorker _ _ lives .recover
    (spares_recover _) _ .here

/-- The empty batch commits the saga whose compensation failed. -/
theorem empty_batch_masks_failure : ¬∀ (state : System Unit (List String)),
    Lifetime recording (·.hasStore = true) (fun _ _ => True) (fun _ => True)
      ⟨.empty, .empty, []⟩ state → Unmasked state := by
  intro claim
  have unmasked := claim (resubmitted fun _ _ => true) (resubmitted_lives fun _ _ _ => trivial)
  have marked : "s" ∈ (resubmitted fun _ _ => true).world := by decide
  have committed : (resubmitted fun _ _ => true).store.status? "s" = some .committed := by decide
  have stays := unmasked "s" marked
  rw [committed] at stays
  cases stays

end Runs

end SagaMind.FailureMasking
