import SagaMind.Coordinator.Frame

/-!
# Clerical work

Most calls of a batch file records: they write no status and no alert, and what
the coordinator says of its sagas stays as it is. The programs between the
turning points of a batch make no other calls.
-/

namespace SagaMind

open CallProgram KeyedTable Coordinator

set_option autoImplicit false

variable {Args World : Type}

/-- Calls that write no status and no alert, execute nothing, and neither read
a saga object nor change it, but for adding to its list of completed steps. -/
def Clerical (sagaId : String) : Call Args → Prop
  | .store (.writeTransactionState ..) => False
  | .store (.pushDeadLetter ..) => False
  | .store .listIncomplete => False
  | .store request => ∀ owner ∈ request.writes?, owner = sagaId
  | .memory (.appendCompleted owner _) => owner = sagaId
  | .memory _ => False
  | .outside (.execute ..) => False
  | .outside _ => True

def Enquiry : Call Args → Prop
  | .store (.stepAlreadyCommitted ..) => True
  | .outside (.verify ..) => True
  | .outside (.validate _) => True
  | _ => False

theorem Enquiry.clerical {sagaId : String} {request : Call Args} (enquiry : Enquiry request) :
    Clerical sagaId request := by
  rcases request with request | request | request
  · exact enquiry.elim
  · cases request with
    | stepAlreadyCommitted owner key =>
        intro owner writes
        cases writes
    | _ => exact enquiry.elim
  · cases request with
    | execute owner step => exact enquiry.elim
    | _ => trivial

theorem enquiry_clerical (sagaId : String) {Value : Type} {action : Action Args Value}
    (uses : Uses Enquiry action) : Uses (Clerical sagaId) action :=
  uses_mono (fun _ => Enquiry.clerical) uses

def Unwinds (sagaId : String) : Call Args → Prop
  | .memory (.setStatusIfActive owner _) => owner = sagaId
  | .store (.writeTransactionState owner status _) => owner = sagaId ∧ status ≠ .committed
  | .store (.pushDeadLetter owner ..) => owner = sagaId
  | request => Clerical sagaId request

theorem Clerical.unwinds {sagaId : String} {request : Call Args}
    (clerical : Clerical sagaId request) : Unwinds sagaId request := by
  rcases request with request | request | request
  · cases request with
    | setStatusIfActive => exact clerical.elim
    | _ => exact clerical
  · cases request with
    | writeTransactionState | pushDeadLetter => exact clerical.elim
    | _ => exact clerical
  · exact clerical

def Performs (sagaId : String) (step : SagaStep Args) (request : Call Args) : Prop :=
  Clerical sagaId request ∨ request = .outside (.execute sagaId step)

abbrev Yields {Err Value : Type} (allowed : Call Args → Prop) (good : Value → Prop)
    (program : Program (coordinatorFace Args) Err Value) : Prop :=
  @wp (coordinatorFace Args) Unit Err Value (havoc allowed) program (fun value _ => good value)
    (fun _ _ => True) ()

namespace Coordinator

section Programs

variable {sagaId : String}

theorem clerical_store {request : StoreCall Args} (clerical : Clerical sagaId (.store request)) :
    Uses (Clerical sagaId) (onStore request) :=
  @conforms_perform (coordinatorFace Args) _ _ _ fun _ => clerical

theorem clerical_memory {request : MemoryCall Args}
    (clerical : Clerical sagaId (.memory request)) : Uses (Clerical sagaId) (onMemory request) :=
  @conforms_perform (coordinatorFace Args) _ _ _ fun _ => clerical

theorem clerical_outside {request : OutsideCall Args}
    (clerical : Clerical sagaId (.outside request)) : Uses (Clerical sagaId) (onOutside request) :=
  @conforms_perform (coordinatorFace Args) _ _ _ fun _ => clerical

theorem clerical_flagged {Value : Type} {action : Action Args Value}
    (clerical : Uses (Clerical sagaId) action) (journaled ambiguous : Bool) :
    Uses (Clerical sagaId) (flagged journaled ambiguous action) :=
  conforms_attempt clerical fun _ => conforms_raise _

theorem clerical_transition {stepId : String} {expected : List EffectState}
    {newState : EffectState} {result : Option Args} {error : Option String} :
    Uses (Clerical sagaId)
      (onStore (.transitionEffect sagaId stepId expected newState result error)) :=
  clerical_store fun _ writes => (Option.some.inj writes).symm

theorem clerical_files : FilesUndoing (@Clerical Args sagaId) sagaId where
  reads := fun _ => nofun
  claims := fun _ _ writes => (Option.some.inj writes).symm
  closes := fun _ _ _ _ writes => (Option.some.inj writes).symm

theorem clerical_mark_compensating (self : Coordinator) (stepId : String) :
    Uses (Clerical sagaId) (self.markCompensating sagaId stepId : Action Args Unit) :=
  self.uses_mark_compensating clerical_files stepId

theorem clerical_mark_compensated (self : Coordinator) (stepId : String) :
    Uses (Clerical sagaId) (self.markCompensated sagaId stepId : Action Args Unit) :=
  self.uses_mark_compensated clerical_files stepId

section Unwinding

theorem unwinds_remember {status : SagaStatus} :
    Uses (Unwinds sagaId) (onMemory (.setStatusIfActive sagaId status) : Action Args Unit) :=
  @conforms_perform (coordinatorFace Args) _ _ _ fun _ => rfl

theorem unwinds_write {status : SagaStatus} {metadata : Metadata Args}
    (unmade : status ≠ .committed) :
    Uses (Unwinds sagaId) (onStore (.writeTransactionState sagaId status metadata)) :=
  @conforms_perform (coordinatorFace Args) _ _ _ fun _ => ⟨rfl, unmade⟩

theorem unwinds_letter {stepName error : String} :
    Uses (Unwinds sagaId) (onStore (.pushDeadLetter sagaId stepName error) : Action Args Unit) :=
  @conforms_perform (coordinatorFace Args) _ _ _ fun _ => rfl

theorem unwinds_undoes : Undoes (@Unwinds Args sagaId) sagaId where
  reads := fun _ => nofun
  claims := fun _ _ writes => (Option.some.inj writes).symm
  closes := fun _ _ _ _ writes => (Option.some.inj writes).symm
  compensates := fun _ _ => trivial
  remembers := fun _ => rfl
  writes := fun _ _ unmade => ⟨rfl, unmade⟩
  reports := fun _ _ => rfl

theorem unwinds_quarantine_step (step : SagaStep Args) :
    Uses (Unwinds sagaId) (quarantineStep sagaId step) := by
  apply conforms_bind
  · apply conforms_attempt
    · apply conforms_bind (uses_mono (fun _ => Clerical.unwinds) clerical_transition)
      exact fun _ => conforms_pure _
    · exact fun _ => conforms_pure _
  · exact fun _ => conforms_bind (unwinds_write (by decide)) fun _ => unwinds_letter

end Unwinding

theorem enquiry_verify {arguments : Args} {invariants : String} :
    Uses Enquiry (onOutside (.verify arguments invariants) : Action Args (Bool × String)) :=
  @conforms_perform (coordinatorFace Args) _ _ _ fun _ => trivial

theorem enquiry_already_committed (self : Coordinator) (sagaId : String) (step : SagaStep Args) :
    Uses Enquiry (self.alreadyCommitted sagaId step) :=
  conforms_ite (@conforms_perform (coordinatorFace Args) _ _ _ fun _ => trivial) (conforms_pure _)

theorem enquiry_preflight (self : Coordinator) (step : SagaStep Args) :
    Uses Enquiry (self.preflight step) :=
  conforms_ite (@conforms_perform (coordinatorFace Args) _ _ _ fun _ => trivial) (conforms_pure _)

theorem clerical_mark_executing (self : Coordinator) (step : SagaStep Args) :
    Uses (Clerical sagaId) (self.markExecuting sagaId step) := by
  apply conforms_ite
  · apply conforms_bind
    · apply clerical_flagged
      exact clerical_store fun _ writes => (Option.some.inj writes).symm
    · intro _
      exact conforms_bind (clerical_flagged clerical_transition _ _) fun _ => conforms_pure _
  · exact conforms_pure _

theorem clerical_publish_step (self : Coordinator) (step : SagaStep Args) :
    Uses (Clerical sagaId) (self.publishStep sagaId step) := by
  apply conforms_ite
  · apply conforms_bind
    · apply clerical_flagged
      exact clerical_store fun _ writes => (Option.some.inj writes).symm
    · exact fun _ => conforms_pure _
  · apply clerical_flagged
    apply conforms_ite
    · apply conforms_bind
      · exact clerical_store fun _ writes => (Option.some.inj writes).symm
      · intro _
        apply conforms_ite
        · exact clerical_store fun _ writes => (Option.some.inj writes).symm
        · exact conforms_pure _
    · exact conforms_pure _

theorem aborts_step {Value : Type} (good : Value → Prop) (self : Coordinator) (step : SagaStep Args)
    (result : ExecuteResult Args) :
    Yields (Clerical sagaId) good
      (self.abortStep sagaId step result : Program (coordinatorFace Args) StepFault Value) := by
  unfold abortStep
  rw [Yields, wp_ite]
  split
  · rw [wp_bind]
    apply wp_mono (clerical_flagged clerical_transition _ _ ())
    · exact fun _ _ _ => trivial
    · exact fun _ _ _ => trivial
  · trivial

variable [Inhabited Args]

theorem clerical_mark_applied (self : Coordinator) (step : SagaStep Args)
    (result : ExecuteResult Args) :
    Uses (Clerical sagaId) (self.markApplied sagaId step result) :=
  conforms_ite (conforms_bind (clerical_flagged clerical_transition _ _) fun _ => conforms_pure _)
    (conforms_pure _)

theorem clerical_record_history (self : Coordinator) (step : SagaStep Args)
    (result : ExecuteResult Args) :
    Uses (Clerical sagaId) (self.recordHistory sagaId step result) :=
  conforms_ite (clerical_store fun _ writes => (Option.some.inj writes).symm) (conforms_pure _)

theorem commits_step (self : Coordinator) (step : SagaStep Args) (result : ExecuteResult Args) :
    Yields (Clerical sagaId) (·.status = .committed) (self.commitStep sagaId step result) := by
  have done : ∀ {Value : Type} {program : Program (coordinatorFace Args) StepFault Value}
      {post : Value → Unit → Prop}, Uses (Clerical sagaId) program → (∀ value, post value ()) →
      @wp (coordinatorFace Args) Unit StepFault Value (havoc (Clerical sagaId)) program post
        (fun _ _ => True) () := by
    intro Value program post uses ends
    exact wp_mono (uses ()) (fun value _ _ => ends value) fun _ _ _ => trivial
  unfold commitStep
  rw [Yields, wp_bind]
  apply done (self.clerical_mark_applied step result)
  intro _
  dsimp only
  rw [wp_bind]
  have joins : Clerical sagaId (.memory (.appendCompleted sagaId { step with status := .committed })) :=
    rfl
  apply done (clerical_flagged (clerical_memory joins) _ _)
  intro _
  rw [wp_bind]
  apply done (self.clerical_publish_step _)
  intro _
  rw [wp_bind]
  apply done (clerical_flagged (self.clerical_record_history _ _) _ _)
  intro _
  rfl

theorem performs_step (self : Coordinator) (step : SagaStep Args) :
    Yields (Performs sagaId step) (·.status = .committed) (self.executeStep sagaId step) := by
  have clerical : ∀ {Err Value : Type} {program : Program (coordinatorFace Args) Err Value},
      Uses (Clerical sagaId) program → Uses (Performs sagaId step) program :=
    fun uses => uses_mono (fun _ clerical => .inl clerical) uses
  have execute : Uses (Performs sagaId step)
      (onOutside (.execute sagaId step) : Action Args (ExecuteResult Args)) :=
    @conforms_perform (coordinatorFace Args) _ _ _ fun _ => .inr rfl
  apply execute_step_rule fun _ => True
  · exact clerical (self.clerical_mark_executing step) ()
  · intro _ _
    apply wp_mono (execute ())
    · intro result _ _
      split
      · exact wp_guard_mono (fun _ _ clerical => .inl clerical) (self.commits_step step result)
      · exact wp_guard_mono (fun _ _ clerical => .inl clerical) (aborts_step _ self step result)
    · exact fun _ _ _ => trivial

end Programs

end Coordinator

section Systems

variable [DecidableEq Args] {sagaId : String} {outside : Outside Args World}
  {before after : System Args World}

def posted (memory : Memory Args) (sagaId : String) :
    Option (SagaStatus × List (SagaStep Args)) :=
  (memory.active.find? sagaId).map fun saga => (saga.status, saga.pendingSteps)

/-- Between the turning points no status, no alert and no pending step changes. -/
structure Filed (before after : System Args World) : Prop where
  state : after.store.state = before.store.state
  dead : after.store.dead = before.store.dead
  posted : ∀ sagaId, posted after.memory sagaId = posted before.memory sagaId

omit [DecidableEq Args] in
theorem posted_put (memory : Memory Args) (saga : SagaTransaction Args) (sagaId : String) :
    posted { memory with active := memory.active.put saga } sagaId =
      if saga.sagaId = sagaId then some (saga.status, saga.pendingSteps)
      else posted memory sagaId := by
  unfold posted
  dsimp only
  rw [Table.find_put]
  split <;> rfl

omit [DecidableEq Args] in
theorem posted_amend (memory : Memory Args) (owner sagaId : String)
    {change : SagaTransaction Args → SagaTransaction Args}
    (same : ∀ saga, (change saga).sagaId = saga.sagaId) :
    posted (memory.amend owner change) sagaId =
      if owner = sagaId then
        (memory.active.find? owner).map fun saga =>
          ((change saga).status, (change saga).pendingSteps)
      else posted memory sagaId := by
  unfold Memory.amend
  cases found : memory.active.find? owner with
  | none =>
      have released : ∀ released, posted { memory with released } sagaId = posted memory sagaId :=
        fun _ => rfl
      dsimp only
      by_cases own : owner = sagaId
      · have absent : posted memory sagaId = none := by
          unfold posted
          rw [← own, found]
          rfl
        rw [if_pos own]
        split
        · rw [released, absent]
          rfl
        · rw [absent]
          rfl
      · rw [if_neg own]
        split
        · exact released _
        · rfl
  | some saga =>
      have own : saga.sagaId = owner := Table.find_key found
      dsimp only
      rw [posted_put, same, own]
      rfl

omit [DecidableEq Args] in
theorem posted_append (memory : Memory Args) (owner sagaId : String) (step : SagaStep Args) :
    posted ((MemoryCall.appendCompleted owner step).serve memory).2 sagaId =
      posted memory sagaId := by
  change posted (memory.amend owner _) sagaId = _
  rw [posted_amend]
  · split
    · rename_i same
      rw [same]
      rfl
    · rfl
  · exact fun _ => rfl

omit [DecidableEq Args] in
theorem posted_set_status (memory : Memory Args) (owner sagaId : String) (status : SagaStatus) :
    posted ((MemoryCall.setStatus owner status).serve memory).2 sagaId =
      (posted memory sagaId).map fun entry =>
        if owner = sagaId then (status, entry.2) else entry := by
  change posted (memory.amend owner _) sagaId = _
  rw [posted_amend]
  · split
    · rename_i same
      rw [same, posted, Option.map_map]
      rfl
    · exact Option.map_id'.symm
  · exact fun _ => rfl

omit [DecidableEq Args] in
theorem posted_set_pending (memory : Memory Args) (owner sagaId : String)
    (steps : List (SagaStep Args)) :
    posted ((MemoryCall.setPending owner steps).serve memory).2 sagaId =
      (posted memory sagaId).map fun entry =>
        if owner = sagaId then (entry.1, steps) else entry := by
  change posted (memory.amend owner _) sagaId = _
  rw [posted_amend]
  · split
    · rename_i same
      rw [same, posted, Option.map_map]
      rfl
    · exact Option.map_id'.symm
  · exact fun _ => rfl

omit [DecidableEq Args] in
theorem posted_set_status_if_active (memory : Memory Args) (owner sagaId : String)
    (status : SagaStatus) :
    posted ((MemoryCall.setStatusIfActive owner status).serve memory).2 sagaId =
      (posted memory sagaId).map fun entry =>
        if owner = sagaId then (status, entry.2) else entry := by
  unfold MemoryCall.serve
  dsimp only
  cases found : memory.active.find? owner with
  | none =>
      dsimp only
      by_cases own : owner = sagaId
      · subst own
        simp [posted, found]
      · simp [own]
  | some saga =>
      have key : saga.sagaId = owner := Table.find_key found
      dsimp only
      rw [posted_put]
      by_cases own : owner = sagaId
      · subst own
        simp [posted, found, key]
      · simp [own, key]

def MemoryCall.changes? : MemoryCall Args → Option String
  | .registerSaga saga => some saga.sagaId
  | .appendCompleted sagaId _ | .setStatus sagaId _ | .setStatusIfActive sagaId _
  | .setPending sagaId _ => some sagaId
  | .lookupSaga _ | .completedSteps _ | .evictIfNeeded _ => none

omit [DecidableEq Args] in
theorem posted_others {request : MemoryCall Args} (memory : Memory Args) {sagaId other : String}
    (own : request.changes? = some sagaId) (apart : other ≠ sagaId) :
    posted (request.serve memory).2 other = posted memory other := by
  have assigned : ∀ change : SagaStatus × List (SagaStep Args) → SagaStatus × List (SagaStep Args),
      ((posted memory other).map fun entry => if sagaId = other then change entry else entry) =
        posted memory other := by
    intro change
    simp only [if_neg (Ne.symm apart)]
    exact Option.map_id'
  cases request with
  | registerSaga saga =>
      obtain rfl := Option.some.inj own
      change posted { memory with active := memory.active.put saga } other = _
      rw [posted_put, if_neg (Ne.symm apart)]
  | appendCompleted owner step => exact posted_append memory owner other step
  | setStatus owner status =>
      obtain rfl := Option.some.inj own
      rw [posted_set_status]
      exact assigned _
  | setStatusIfActive owner status =>
      obtain rfl := Option.some.inj own
      rw [posted_set_status_if_active]
      exact assigned _
  | setPending owner steps =>
      obtain rfl := Option.some.inj own
      rw [posted_set_pending]
      exact assigned _
  | lookupSaga | completedSteps | evictIfNeeded => cases own

omit [DecidableEq Args] in
/-- Eviction drops sagas that are over, and says nothing new of the others. -/
theorem posted_evict (limit : Nat) (sagas : List (SagaTransaction Args)) (memory : Memory Args)
    (sagaId : String) (entry : SagaStatus × List (SagaStep Args))
    (stays : posted (memory.evict limit sagas) sagaId = some entry) :
    posted memory sagaId = some entry := by
  unfold posted at stays ⊢
  rcases Memory.evict_drops limit sagas memory with dropped | same
  · rw [dropped] at stays
    cases stays
  · rw [same] at stays
    exact stays

omit [DecidableEq Args] in
theorem posted_evict_stays (limit : Nat) (sagas : List (SagaTransaction Args))
    (memory : Memory Args) {sagaId : String} {entry : SagaStatus × List (SagaStep Args)}
    (alive : ∀ saga ∈ sagas, saga.sagaId = sagaId → Memory.evictable saga.status = false)
    (found : posted memory sagaId = some entry) :
    posted (memory.evict limit sagas) sagaId = some entry := by
  induction sagas generalizing memory with
  | nil => exact found
  | cons saga rest ih =>
      have later := fun other member => alive other (List.mem_cons_of_mem _ member)
      unfold Memory.evict
      split
      · exact found
      · split
        · rename_i evictable
          apply ih _ later
          have apart : saga.sagaId ≠ sagaId := by
            intro same
            rw [alive saga (List.mem_cons_self ..) same] at evictable
            cases evictable
          unfold posted at found ⊢
          dsimp only
          rw [Table.find_erase, if_neg (Ne.symm apart)]
          exact found
        · exact ih memory later found

theorem rows_kept {request : StoreCall Args} (store : Store Args)
    (other : ∀ sagaId status metadata,
      request ≠ .writeTransactionState sagaId status metadata) :
    (request.serve store).2.state = store.state := by
  cases request with
  | writeTransactionState owner status metadata => exact absurd rfl (other owner status metadata)
  | prepareEffect owner stepId stepName action compensation key =>
      rcases store.prepare_effect_cases owner stepId stepName action compensation key with
        ⟨_, _, _, same⟩ | ⟨_, same⟩ | ⟨_, _, _, same⟩ <;> rw [StoreCall.serve, same]
      simp
  | transitionEffect owner stepId expected newState result error =>
      rcases store.transition_effect_cases owner stepId expected newState result error with
        ⟨_, _, _, same⟩ | ⟨_, _, same⟩ <;> rw [StoreCall.serve, same]
      simp
  | commitEffect owner stepId key =>
      rcases store.commit_effect_cases owner stepId key with
        ⟨_, _, _, same⟩ | ⟨_, _, same⟩ <;> rw [StoreCall.serve, same]
      simp
  | _ => rfl

theorem letters_kept {request : StoreCall Args} (store : Store Args)
    (other : ∀ sagaId stepName error, request ≠ .pushDeadLetter sagaId stepName error) :
    (request.serve store).2.dead = store.dead := by
  cases request with
  | pushDeadLetter owner stepName error => exact absurd rfl (other owner stepName error)
  | prepareEffect owner stepId stepName action compensation key =>
      rcases store.prepare_effect_cases owner stepId stepName action compensation key with
        ⟨_, _, _, same⟩ | ⟨_, same⟩ | ⟨_, _, _, same⟩ <;> rw [StoreCall.serve, same]
      simp
  | transitionEffect owner stepId expected newState result error =>
      rcases store.transition_effect_cases owner stepId expected newState result error with
        ⟨_, _, _, same⟩ | ⟨_, _, same⟩ <;> rw [StoreCall.serve, same]
      simp
  | commitEffect owner stepId key =>
      rcases store.commit_effect_cases owner stepId key with
        ⟨_, _, _, same⟩ | ⟨_, _, same⟩ <;> rw [StoreCall.serve, same]
      simp
  | _ => rfl

theorem log_kept {request : StoreCall Args} (store : Store Args)
    (other : ∀ sagaId compensation, request ≠ .appendCompensation sagaId compensation) :
    (request.serve store).2.comps = store.comps := by
  cases request with
  | appendCompensation owner compensation => exact absurd rfl (other owner compensation)
  | prepareEffect owner stepId stepName action compensation key =>
      rcases store.prepare_effect_cases owner stepId stepName action compensation key with
        ⟨_, _, _, same⟩ | ⟨_, same⟩ | ⟨_, _, _, same⟩ <;> rw [StoreCall.serve, same]
      rfl
  | transitionEffect owner stepId expected newState result error =>
      rcases store.transition_effect_cases owner stepId expected newState result error with
        ⟨_, _, _, same⟩ | ⟨_, _, same⟩ <;> rw [StoreCall.serve, same]
      rfl
  | commitEffect owner stepId key =>
      rcases store.commit_effect_cases owner stepId key with
        ⟨_, _, _, same⟩ | ⟨_, _, same⟩ <;> rw [StoreCall.serve, same]
      simp [Store.putEffect]
  | _ => rfl

theorem clerical_filed {request : Call Args} {reply : Except PyError request.Answer}
    (clerical : Clerical sagaId request) (taken : serveCall outside request before reply after) :
    Filed before after := by
  rcases request with request | request | request
  · obtain ⟨-, rfl⟩ := taken
    cases request with
    | completedSteps owner => exact ⟨rfl, rfl, fun _ => rfl⟩
    | appendCompleted owner step =>
        exact ⟨rfl, rfl, fun other => posted_append _ owner other step⟩
    | _ => exact clerical.elim
  · obtain ⟨-, rfl⟩ := taken
    constructor
    · apply rows_kept
      rintro owner status metadata rfl
      exact clerical
    · apply letters_kept
      rintro owner stepName error rfl
      exact clerical
    · exact fun _ => rfl
  · obtain ⟨world, -, rfl⟩ := taken
    exact ⟨rfl, rfl, fun _ => rfl⟩

theorem performs_filed {step : SagaStep Args} {request : Call Args}
    {reply : Except PyError request.Answer} (performs : Performs sagaId step request)
    (taken : serveCall outside request before reply after) : Filed before after := by
  rcases performs with clerical | rfl
  · exact clerical_filed clerical taken
  · obtain ⟨world, -, rfl⟩ := taken
    exact ⟨rfl, rfl, fun _ => rfl⟩

section Keeping

variable {served : Machine (coordinatorFace Args) (System Args World)}
  {inv : System Args World → Prop}

/-- Clerical work keeps whatever depends on nothing but the filed part. -/
theorem clerical_keeps (serves : Serves outside served)
    (filed : ∀ {before after : System Args World}, Filed before after → inv before → inv after)
    (request : Call Args) (before : System Args World) (reply : Except PyError request.Answer)
    (after : System Args World) (clerical : Clerical sagaId request) (here : inv before)
    (taken : served.step request before reply after) : inv after :=
  filed (clerical_filed clerical (serves taken)) here

theorem performs_keeps {step : SagaStep Args} (serves : Serves outside served)
    (filed : ∀ {before after : System Args World}, Filed before after → inv before → inv after)
    (request : Call Args) (before : System Args World) (reply : Except PyError request.Answer)
    (after : System Args World) (performs : Performs sagaId step request) (here : inv before)
    (taken : served.step request before reply after) : inv after :=
  filed (performs_filed performs (serves taken)) here

end Keeping

end Systems

end SagaMind
