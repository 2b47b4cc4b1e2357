import SagaMind.Coordinator.Lifetime
import SagaMind.Coordinator.Walk

/-!
# Escalated sagas reach an operator

Three paths of the coordinator mark a saga `COMPENSATION_FAILED`, and each
pushes its dead letter after the status. Recovery does not look at the saga
again. Unless a crash strikes between the two writes, a saga that is marked so
has a dead letter.
-/

namespace SagaMind.EscalationAlerts

open CallProgram KeyedTable Coordinator Walk

set_option autoImplicit false

variable {Args : Type}

def owing : (request : StoreCall Args) → Except PyError request.Answer → Option String →
    Option String
  | .writeTransactionState sagaId .compensationFailed _, _, _ => some sagaId
  | .pushDeadLetter .., _, _ => none
  | _, _, owed => owed

def escalating : Outside Args (Option String) where
  respond := fun _ before _ after => after = before
  observe := owing

def Alerted (store : Store Args) (sagaId : String) : Prop :=
  store.status? sagaId = some .compensationFailed → Reported store sagaId

def Owed (sagaId : String) (state : System Args (Option String)) : Prop :=
  Alerted state.store sagaId ∨ state.world = some sagaId

def heard (state : System Args (Option String)) : Bool :=
  state.world.all fun sagaId => state.store.dead.any fun letter => letter.sagaId = sagaId

/-- A crash strikes only there. -/
abbrev Heard (state : System Args (Option String)) : Prop := heard state = true

section StoreFacts

variable {sagaId other : String} {store before after : Store Args} {status : SagaStatus}

theorem alerted_of_status (written : store.status? sagaId = some status)
    (unescalated : status ≠ .compensationFailed) : Alerted store sagaId := by
  intro escalated
  rw [written] at escalated
  exact absurd (Option.some.inj escalated) unescalated

theorem alerted_write (unescalated : status ≠ .compensationFailed) (metadata : Metadata Args) :
    Alerted (store.writeTransactionState sagaId status metadata) sagaId := by
  apply alerted_of_status _ unescalated
  rw [Store.status_write_state, if_pos rfl]

theorem alerted_same (rows : after.state = before.state) (letters : after.dead = before.dead)
    (alerted : Alerted before sagaId) : Alerted after sagaId := by
  unfold Alerted Reported Store.status? at *
  rw [rows, letters]
  exact alerted

theorem untouched_alerted (untouched : Untouched sagaId before after) (apart : other ≠ sagaId)
    (alerted : Alerted before other) : Alerted after other := by
  intro escalated
  have same : after.status? other = before.status? other := by
    unfold Store.status?
    rw [untouched.row other apart]
  rw [same] at escalated
  obtain ⟨letter, member, own⟩ := alerted escalated
  exact ⟨letter, untouched.letters letter member, own⟩

end StoreFacts

section Batches

variable [DecidableEq Args] {self : Coordinator} {sagaId : String}
  {state : System Args (Option String)}

/-- The deployment as one call on `sagaId` sees it. -/
abbrev watching (sagaId : String) : Machine (coordinatorFace Args) (System Args (Option String)) :=
  machine escalating (Owed sagaId)

abbrev Settled (sagaId : String) (state : System Args (Option String)) : Prop :=
  Alerted state.store sagaId

omit [DecidableEq Args] in
theorem filed_settled {before after : System Args (Option String)} (filed : Filed before after)
    (settled : Settled sagaId before) : Settled sagaId after :=
  alerted_same filed.state filed.dead settled

theorem wp_clerk {Value : Type} {action : Action Args Value} (uses : Uses (Clerical sagaId) action)
    (settled : Settled sagaId state) :
    wp (watching sagaId) action (fun _ => Settled sagaId) (fun _ => Settled sagaId) state := by
  apply wp_clerical _ _ uses settled
  · exact fun request state clerical settled => .inl settled
  · exact clerical_keeps (fun taken => taken) filed_settled

theorem wp_write_status {status : SagaStatus} {metadata : Metadata Args}
    {post : Unit → System Args (Option String) → Prop}
    {failed : PyError → System Args (Option String) → Prop}
    (unescalated : status ≠ .compensationFailed) (settled : Settled sagaId state)
    (done : ∀ after, Settled sagaId after → post () after) :
    wp (watching sagaId) (self.writeStatus sagaId status metadata) post failed state := by
  unfold writeStatus
  rw [wp_ite]
  split
  · apply wp_write_state (.inl settled)
    apply done
    exact alerted_write unescalated metadata
  · exact done state settled

theorem wp_remember {request : MemoryCall Args}
    {post : request.Answer → System Args (Option String) → Prop}
    {failed : PyError → System Args (Option String) → Prop} (settled : Settled sagaId state)
    (done : ∀ answer after, Settled sagaId after → post answer after) :
    wp (watching sagaId) (onMemory request) post failed state := by
  apply wp_memory (.inl settled)
  apply done
  exact settled

omit [DecidableEq Args] in
/-- The letter is still to come while the failure goes on record. -/
theorem clerical_owed [DecidableEq Args] {request : Call Args}
    {before after : System Args (Option String)} {reply : Except PyError request.Answer}
    (clerical : Clerical sagaId request) (owed : before.world = some sagaId)
    (taken : serveCall escalating request before reply after) : after.world = some sagaId := by
  rcases request with request | request | request
  · obtain ⟨-, rfl⟩ := taken
    exact owed
  · obtain ⟨-, rfl⟩ := taken
    cases request <;> first | exact owed | exact clerical.elim
  · obtain ⟨world, rfl, rfl⟩ := taken
    exact owed

theorem wp_letter {stepName error : String} (here : Owed sagaId state) :
    wp (watching sagaId) (onStore (.pushDeadLetter sagaId stepName error))
      (fun _ => Settled sagaId) (fun _ _ => False) state := by
  apply wp_push_dead_letter here
  exact fun _ => reported_push stepName error

theorem wp_dead_letter_recovery {stepName error : String} (here : Owed sagaId state) :
    wp (watching sagaId) (deadLetterRecovery sagaId stepName error)
      (fun _ after => Lettered after.store sagaId) (fun _ _ => False) state := by
  unfold deadLetterRecovery
  rw [wp_bind]
  apply wp_write_state here
  apply wp_push_dead_letter
  · exact .inr rfl
  · constructor
    · exact reported_push stepName error
    · rw [Store.status_push_dead_letter, Store.status_write_state, if_pos rfl]

theorem wp_handle_failure {step : SagaStep Args} {error : String} (settled : Settled sagaId state) :
    wp (watching sagaId) (self.handleCompensationFailure sagaId step error)
      (fun _ => Settled sagaId) (fun _ _ => False) state := by
  unfold handleCompensationFailure
  rw [wp_bind]
  apply wp_remember settled
  intro _ between settled
  rw [wp_ite]
  split
  · rw [wp_bind]
    apply wp_write_state
    · exact .inl settled
    · rw [wp_bind]
      have recorded : ∀ {between : System Args (Option String)}, between.world = some sagaId →
          wp (watching sagaId) (self.recordCompensationFailure sagaId step.stepId error)
            (fun _ after => after.world = some sagaId) (fun _ _ => False) between := by
        intro between owed
        apply @wp_record_failure Args _ (watching sagaId) self sagaId
          (fun after => after.world = some sagaId)
        · exact fun _ _ _ owed => .inr owed
        · exact fun _ _ _ _ clerical owed taken => clerical_owed clerical owed taken
        · exact owed
      apply wp_unfailing (recorded rfl)
      exact fun _ between owed => wp_letter (.inr owed)
  · exact settled

def alerts [Inhabited Args] (self : Coordinator) (sagaId : String) :
    Outline (watching sagaId : Machine (coordinatorFace Args) _) self sagaId where
  queue := fun _ => True
  working := Settled sagaId
  falling := Settled sagaId
  rolling := fun _ => Settled sagaId
  undone := Settled sagaId
  finished := Settled sagaId
  restatus := fun _ _ => trivial
  moves := fun _ => trivial
  falls := id
  ends := fun settled => settled
  rests := id
  asks := fun uses settled => wp_clerk (enquiry_clerical sagaId uses) settled
  executes := by
    intro step rest state _ _ settled
    apply wp_performs _ _ settled
    · exact fun request state performs settled => .inl settled
    · exact performs_keeps (fun taken => taken) filed_settled
  pauses := by
    intro step rest state _ _ _ settled
    unfold pauseWith
    rw [wp_bind]
    apply wp_remember settled
    intro _ between settled
    rw [wp_bind]
    apply wp_remember settled
    intro _ between settled
    exact wp_write_status (by decide) settled fun _ settled => settled
  commits := by
    intro state settled
    unfold closeBatch
    rw [wp_bind]
    apply wp_remember settled
    intro _ between settled
    rw [wp_bind]
    apply wp_write_status (by decide) settled
    intro after settled
    exact wp_remember settled fun _ _ settled => settled
  enters := by
    intro state settled
    rw [wp_bind]
    apply wp_write_status (by decide) settled
    intro after settled
    exact wp_remember settled fun _ _ settled => settled
  undoes := by
    intro step rest state settled
    apply wp_undo_step _ _ _ settled
    · exact fun uses settled => wp_clerk uses settled
    · exact fun settled => wp_handle_failure settled
    · exact fun impossible => impossible.elim
  closes := by
    intro state settled
    unfold closeRollback
    rw [wp_bind]
    apply wp_remember settled
    intro _ between settled
    exact wp_write_status (by decide) settled fun _ settled => settled
  quarantines := by
    intro step state settled
    unfold quarantineStep
    rw [wp_bind, wp_attempt, wp_bind]
    have letters : ∀ (stepName : String) {between : System Args (Option String)},
        Settled sagaId between → wp (watching sagaId)
          (deadLetterRecovery sagaId stepName
            "forward effect raised before its outcome was durably recorded")
          (fun _ => Settled sagaId) (fun _ _ => False) between := by
      intro stepName between settled
      apply wp_mono (wp_dead_letter_recovery (.inl settled))
      · exact fun _ _ lettered _ => lettered.reported
      · exact fun _ _ impossible => impossible
    apply wp_mono (wp_clerk clerical_transition settled)
    · exact fun effect _ settled => letters effect.stepName settled
    · exact fun _ _ settled => letters step.stepName settled

theorem call_settles [Inhabited Args] {request : ApiCall Args}
    (own : request.sagaId? = some sagaId) (settled : Settled sagaId state) :
    wp (watching sagaId) (request.program self) (fun _ => Settled sagaId)
      (fun _ => Settled sagaId) state := by
  apply (alerts self sagaId).request
  · exact fun taken => taken
  · exact fun settled => .inl settled
  · exact own
  · exact settled
  · intro _
    cases request with
    | start owner goal tenantId =>
        dsimp only [Entrance]
        unfold openSaga
        rw [wp_bind]
        apply wp_remember settled
        intro _ between settled
        exact wp_write_status (by decide) settled fun _ settled => settled
    | execute owner steps => exact ⟨settled, trivial⟩
    | resume owner =>
        intro saga found
        refine ⟨trivial, ?_⟩
        unfold takePending
        rw [wp_bind]
        apply wp_remember settled
        intro _ between settled
        rw [wp_bind]
        apply wp_remember settled
        intro _ between settled
        exact wp_write_status (by decide) settled fun _ settled => settled
    | reject owner =>
        dsimp only [Entrance]
        unfold dropPending
        rw [wp_bind]
        apply wp_remember settled
        intro _ between settled
        exact wp_write_status (by decide) settled fun _ settled => settled
    | recover => trivial

end Batches

section Recovery

variable [DecidableEq Args] {self : Coordinator} {sagaId : String}
  {state : System Args (Option String)}

omit [DecidableEq Args] in
theorem recoverable_alerted {store : Store Args} (alive : Recoverable store sagaId) :
    Alerted store sagaId := by
  obtain ⟨status, written, working⟩ := recoverable_status alive
  apply alerted_of_status written
  rintro rfl
  cases working

theorem alert_grounds : @Grounds Args _ _ escalating (Owed sagaId) sagaId where
  cut := fun walking => .inl (recoverable_alerted walking.alive)
  letters := wp_dead_letter_recovery

theorem wp_recover_saga {saga : IncompleteSaga Args} (listed : Listed saga state.store)
    (settled : Settled saga.sagaId state) :
    wp (watching saga.sagaId) (self.recoverSaga saga) (fun _ => Settled saga.sagaId)
      (fun _ _ => False) state := by
  unfold recoverSaga
  rw [wp_ite]
  split
  · rw [wp_bind]
    exact wp_remember settled fun _ _ settled => settled
  · rename_i working
    rw [wp_ite]
    split
    · rw [wp_bind]
      apply wp_recover_effects alert_grounds
      · exact listed.walking (by simpa using working)
      constructor
      · intro after done
        rw [if_pos rfl, wp_bind]
        apply wp_write_state
        · exact .inl (recoverable_alerted done.alive)
        · exact alerted_write (by decide) _
      · intro after lettered
        rw [if_neg (by decide)]
        exact fun _ => lettered.reported
    · rw [wp_bind]
      apply wp_replay_compensations
      · exact fun world => .inl settled
      · intro outcome world
        cases outcome with
        | none =>
            rw [wp_bind]
            apply wp_write_state (.inl settled)
            exact alerted_write (by decide) _
        | some error =>
            rw [wp_bind]
            apply wp_write_state (.inl settled)
            apply wp_seq (wp_letter (.inr rfl))
            exact fun _ _ settled => settled

/-- The deployment as `recover` sees it: any saga may owe a letter. -/
abbrev watchingAll : Machine (coordinatorFace Args) (System Args (Option String)) :=
  machine escalating fun state => ∀ sagaId, Owed sagaId state

theorem recover_settles (stored : self.hasStore = true) (settled : ∀ sagaId, Settled sagaId state) :
    wp watchingAll self.recover (fun _ after => ∀ sagaId, Settled sagaId after)
      (fun _ _ => False) state := by
  have sweepable : Sweepable (fun sagaId (store : Store Args) => Alerted store sagaId)
      (fun sagaId store => Alerted store sagaId) :=
    ⟨fun alerted => alerted, untouched_alerted, untouched_alerted⟩
  apply wp_recover stored sweepable
  · exact fun alerted => .inl alerted
  · exact fun listed settled => wp_recover_saga listed settled
  · exact settled
  · exact fun sagaId _ => settled sagaId

end Recovery

section Runs

variable [DecidableEq Args] [Inhabited Args] {self : Coordinator}
  {state : System Args (Option String)}

theorem every_call_settles (stored : self.hasStore = true) (request : ApiCall Args)
    (settled : ∀ sagaId, Settled sagaId state) :
    wp watchingAll (request.program self) (fun _ after => ∀ sagaId, Settled sagaId after)
      (fun _ after => ∀ sagaId, Settled sagaId after) state := by
  cases own : request.sagaId? with
  | none =>
      cases request with
      | recover =>
          unfold ApiCall.program
          rw [wp_void]
          apply wp_unfailing (recover_settles stored settled)
          exact fun _ _ settled => settled
      | start | execute | resume | reject => cases own
  | some sagaId =>
      have confined := wp_untouched (request.confined_program self own)
        (@call_settles Args _ self sagaId state _ request own (settled sagaId))
      have everywhere : wp watchingAll _ _ _ _ := wp_guard_mono (fun _ after here other => by
        by_cases same : other = sagaId
        · exact same ▸ here.1
        · exact .inl (untouched_alerted here.2 same (settled other))) confined
      have others : ∀ after : System Args (Option String), Settled sagaId after ∧
          Untouched sagaId state.store after.store → ∀ other, Settled other after := by
        intro after ends other
        by_cases same : other = sagaId
        · rw [same]
          exact ends.1
        · exact untouched_alerted ends.2 same (settled other)
      apply wp_mono everywhere
      · exact fun _ after ends => others after ends
      · exact fun _ after ends => others after ends

/-- Over the whole life of a deployment, calls with any outcomes, crashes and
recoveries in any order, a saga marked `COMPENSATION_FAILED` has a dead letter,
as long as no crash strikes between the mark and the letter that follows it. -/
theorem escalated_sagas_have_letters
    (lives : Lifetime escalating (·.hasStore = true) (fun _ _ => True) Heard
      ⟨.empty, .empty, none⟩ state) (sagaId : String) : Alerted state.store sagaId := by
  have settled : ∀ sagaId, Settled sagaId state := by
    have rule := @lives_invariant (coordinatorFace Args) PyError Unit (System Args (Option String))
      (machine escalating fun _ => True) (Made (·.hasStore = true) fun _ _ => True) Heard restart
      ⟨.empty, .empty, none⟩ state (fun state => ∀ sagaId, Settled sagaId state)
      (fun state => ∀ sagaId, Owed sagaId state)
    apply rule _ _ _ _ lives
    · intro sagaId escalated
      cases escalated
    · exact fun state settled sagaId => .inl (settled sagaId)
    · intro program state settled made
      obtain ⟨worker, request, stored, _, rfl⟩ := made
      exact every_call_settles stored request settled
    · intro state owed struck sagaId
      rcases owed sagaId with settled | exposed
      · exact settled
      · intro _
        unfold Heard heard at struck
        rw [exposed, Option.all_some] at struck
        obtain ⟨letter, member, own⟩ := List.any_eq_true.mp struck
        exact ⟨letter, member, of_decide_eq_true own⟩
  exact settled sagaId

/-- A batch whose step is quarantined, run to its end or cut after so many calls,
and a recovery. -/
def quarantined (strike : System Unit (Option String) → Bool) (calls : Option Nat) :
    System Unit (Option String) :=
  rehearsedLife escalating raising (fun _ _ => true) strike ⟨.empty, .empty, none⟩
    [(.start "s" "" "", none), (.execute "s" [sampleStep "a" none], calls), (.recover, none)]

theorem quarantined_lives {strikes : System Unit (Option String) → Prop}
    {strike : System Unit (Option String) → Bool}
    (struck : ∀ state, strike state = true → strikes state) (calls : Option Nat) :
    Lifetime escalating (·.hasStore = true) (fun _ _ => True) strikes ⟨.empty, .empty, none⟩
      (quarantined strike calls) := by
  have honest : ∀ (request : OutsideCall Unit) (owed : Option String),
      escalating.respond request owed (raising request) owed := fun _ _ => rfl
  apply rehearsed_life_reached honest
  · rfl
  · exact fun _ _ _ => trivial
  · exact struck

/-- The crash strikes after the dead letter. -/
theorem quarantined_alerted :
    (quarantined heard (some 13)).store.status? "s" = some .compensationFailed ∧
      Alerted (quarantined heard (some 13)).store "s" :=
  ⟨by decide, escalated_sagas_have_letters (quarantined_lives (fun _ heard => heard) _) "s"⟩

/-- The crash strikes between the status and its dead letter, and the recovery
that follows passes over the saga. -/
theorem crash_loses_alert : ¬∀ (state : System Unit (Option String)) (sagaId : String),
    Lifetime escalating (·.hasStore = true) (fun _ _ => True) (fun _ => True)
      ⟨.empty, .empty, none⟩ state → Alerted state.store sagaId := by
  intro claim
  have alerted := claim (quarantined (fun _ => true) (some 12)) "s"
    (quarantined_lives (fun _ _ => trivial) _)
  have escalated : (quarantined (fun _ => true) (some 12)).store.status? "s" =
      some .compensationFailed := by decide
  have silent : (quarantined (fun _ => true) (some 12)).store.dead = [] := by decide
  obtain ⟨letter, member, _⟩ := alerted escalated
  rw [silent] at member
  exact List.not_mem_nil member

end Runs

end SagaMind.EscalationAlerts
