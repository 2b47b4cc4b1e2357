import SagaMind.Coordinator.Tenancy
import SagaMind.Foundation.Annotations
import SagaMind.Foundation.Sessions
import SagaMind.JournalProtocol

/-!
# The history is a record of what was done

The last thing a call does with a step that it has executed and committed is to
write it into the history of the saga. A committed record is committed once, and
whoever commits it owes one entry, so that no step is written twice, in any
interleaving and with crashes anywhere, and nothing is written that did not
happen.
-/

namespace SagaMind.StepHistory

open CallProgram KeyedTable Coordinator JournalProtocol

set_option autoImplicit false

variable {Args : Type}

section Duties

inductive Duty (Args : Type) where
  | idle
  | executed (sagaId : String) (step : SagaStep Args) (result : ExecuteResult Args)
  | committed (sagaId : String) (step : SagaStep Args) (result : ExecuteResult Args)

variable [Inhabited Args]

def entryOf (step : SagaStep Args) (result : ExecuteResult Args) : HistoryEntry Args where
  stepName := step.stepName
  toolName := step.action.toolName
  arguments := step.action.arguments
  result := result.historyData
  status := .committed

namespace Duty

omit [Inhabited Args] in
def note : (request : Call Args) → Except PyError request.Answer → Duty Args → Duty Args
  | .outside (.execute sagaId step), .ok result, _ =>
      if result.succeeded then .executed sagaId step result else .idle
  | .outside (.execute ..), .error _, _ => .idle
  | .store (.commitEffect ..), .ok _, .executed sagaId step result => .committed sagaId step result
  | .store (.recordStep ..), _, _ => .idle
  | _, _, duty => duty

def Free : Duty Args → Prop
  | .committed .. => False
  | _ => True

def allowed (live : Bool) : Call Args → Duty Args → Prop
  | .store (.commitEffect sagaId stepId _), duty =>
      ∃ step result, duty = .executed sagaId step result ∧ step.stepId = stepId
  | .store (.recordStep sagaId entry), duty =>
      ∃ step result, duty = .committed sagaId step result ∧ entry = entryOf step result
  | .store (.transitionEffect _ _ expected newState _ _), _ =>
      live = true → .applied ∈ expected → newState ≠ .committed
  | .outside (.execute ..), duty => duty.Free
  | _, _ => True

def owes? (sagaId : String) : Duty Args → Option String
  | .committed owner step _ => if owner = sagaId then some step.stepId else none
  | _ => none

end Duty

abbrev clerk (live : Bool) : Machine (coordinatorFace Args) (Duty Args) :=
  @noting (coordinatorFace Args) (Duty Args) (Duty.allowed live) Duty.note

omit [Inhabited Args] in
def files (live : Bool) : Call Args → Bool
  | .store (.commitEffect ..) => true
  | .store (.recordStep ..) => true
  | .store (.transitionEffect _ _ expected newState _ _) =>
      (.applied ∈ expected) && newState = .committed && live
  | .outside (.execute ..) => true
  | _ => false

abbrev Quiet (live : Bool) (request : Call Args) : Prop := files live request = false

variable {live : Bool} {request : Call Args} {Err Value Next : Type}

theorem quiet_allowed (quiet : Quiet live request) (duty : Duty Args) :
    duty.allowed live request := by
  cases request with
  | memory request => trivial
  | store request =>
      cases request with
      | commitEffect | recordStep => cases quiet
      | transitionEffect =>
          intro lasting applied committed
          simp [Quiet, files, lasting, applied, committed] at quiet
      | _ => trivial
  | outside request =>
      cases request with
      | execute => cases quiet
      | _ => trivial

omit [Inhabited Args] in
theorem quiet_note (quiet : Quiet live request) (reply : Except PyError request.Answer)
    (duty : Duty Args) : duty.note request reply = duty := by
  cases request with
  | memory request => rfl
  | store request =>
      cases request with
      | commitEffect | recordStep => cases quiet
      | _ => rfl
  | outside request =>
      cases request with
      | execute => cases quiet
      | _ => rfl

def Clears (live : Bool) (program : Program (coordinatorFace Args) Err Value) : Prop :=
  ∀ duty : Duty Args, duty.Free →
    wp (clerk live) program (fun _ duty => duty.Free) (fun _ duty => duty.Free) duty

theorem clears_quiet {program : Program (coordinatorFace Args) Err Value}
    (uses : Uses (Quiet live) program) : Clears live program := by
  intro duty free
  have kept : ∀ request before reply after, Quiet live request → Duty.Free before →
      (@clerk Args _ live).step request before reply after → after.Free := by
    rintro request before reply after quiet free rfl
    rw [quiet_note quiet]
    exact free
  have ended := wp_maintains (fun _ duty quiet _ => quiet_allowed quiet duty) kept (uses ()) free
  exact wp_mono ended (fun _ _ ended => ended.2) fun _ _ ended => ended.2

theorem clears_pure (value : Value) :
    Clears live (pure value : Program (coordinatorFace Args) Err Value) :=
  fun _ free => free

theorem clears_raise (error : Err) :
    Clears live (.raise error : Program (coordinatorFace Args) Err Value) :=
  fun _ free => free

theorem clears_bind {program : Program (coordinatorFace Args) Err Value}
    {rest : Value → Program (coordinatorFace Args) Err Next} (first : Clears live program)
    (later : ∀ value, Clears live (rest value)) : Clears live (program >>= rest) :=
  fun duty free => wp_seq (first duty free) later

theorem clears_attempt {Other : Type} {program : Program (coordinatorFace Args) Err Value}
    {handler : Err → Program (coordinatorFace Args) Other Value} (first : Clears live program)
    (handled : ∀ error, Clears live (handler error)) : Clears live (program.attempt handler) := by
  intro duty free
  rw [wp_attempt]
  exact wp_mono (first duty free) (fun _ _ ended => ended) handled

theorem clears_ite {condition : Prop} [Decidable condition]
    {yes no : Program (coordinatorFace Args) Err Value} (first : Clears live yes)
    (second : Clears live no) : Clears live (if condition then yes else no) := by
  split
  · exact first
  · exact second

end Duties

section Programs

variable {self : Coordinator} {sagaId : String} {step : SagaStep Args} {live : Bool}

theorem quiet_store {request : StoreCall Args} (quiet : Quiet live (.store request)) :
    Uses (Quiet live) (onStore request) :=
  uses_store quiet

theorem quiet_memory (request : MemoryCall Args) : Uses (Quiet live) (onMemory request) :=
  @conforms_perform (coordinatorFace Args) _ _ _ fun _ => rfl

theorem quiet_outside {request : OutsideCall Args} (quiet : Quiet live (.outside request)) :
    Uses (Quiet live) (onOutside request) :=
  @conforms_perform (coordinatorFace Args) _ _ _ fun _ => quiet

theorem quiet_flagged {Value : Type} {action : Action Args Value}
    (quiet : Uses (Quiet live) action) (journaled ambiguous : Bool) :
    Uses (Quiet live) (flagged journaled ambiguous action) :=
  conforms_attempt quiet fun _ => conforms_raise _

theorem quiet_undoes : Undoes (@Quiet Args live) sagaId where
  reads := fun _ => rfl
  claims := fun _ => rfl
  closes := fun _ _ _ => rfl
  compensates := fun _ _ => rfl
  remembers := fun _ => rfl
  writes := fun _ _ _ => rfl
  reports := fun _ _ => rfl

theorem quiet_execute_compensations :
    Uses (Quiet live)
      (self.executeCompensations sagaId (completedSteps sagaId) : Action Args Unit) :=
  self.uses_execute_compensations quiet_undoes (quiet_memory _)

theorem quiet_write_status (status : SagaStatus) (metadata : Metadata Args) :
    Uses (Quiet live) (self.writeStatus sagaId status metadata) :=
  conforms_ite (quiet_store rfl) (conforms_pure _)

theorem quiet_fail_step (fault : StepFault) :
    Uses (Quiet live) (self.failStep sagaId step fault) := by
  apply conforms_bind quiet_execute_compensations
  intro _
  apply conforms_ite
  · apply conforms_bind
    · apply conforms_attempt
      · exact conforms_bind (quiet_store rfl) fun _ => conforms_pure _
      · exact fun _ => conforms_pure _
    · exact fun stepName => conforms_bind (quiet_store rfl) fun _ => quiet_store rfl
  · exact conforms_pure _

theorem quiet_mark_executing : Uses (Quiet live) (self.markExecuting sagaId step) := by
  apply conforms_ite
  · apply conforms_bind (quiet_flagged (quiet_store rfl) _ _)
    intro _
    exact conforms_bind (quiet_flagged (quiet_store rfl) _ _) fun _ => conforms_pure _
  · exact conforms_pure _

theorem quiet_abort_step {Value : Type} (result : ExecuteResult Args) : Uses (Quiet live)
    (self.abortStep sagaId step result : Program (coordinatorFace Args) StepFault Value) :=
  conforms_ite (conforms_bind (quiet_flagged (quiet_store rfl) _ _) fun _ => conforms_raise _)
    (conforms_raise _)

theorem quiet_await_approval [DecidableEq Args] (steps : List (SagaStep Args)) :
    Uses (Quiet live) (self.awaitApproval sagaId steps step) := by
  apply conforms_bind (quiet_memory _)
  intro _
  exact conforms_bind (quiet_memory _) fun _ => quiet_write_status _ _

/-- `recover` commits nothing and writes no history. -/
theorem quiet_recover : Uses (Quiet false) (self.recover : Action Args Nat) := by
  apply conforms_ite
  · apply conforms_bind (quiet_store rfl)
    intro incomplete
    apply uses_mono _ (self.recovery_recover_sagas incomplete 0)
    rintro request ⟨owner, recovery⟩
    cases request with
    | memory request => rfl
    | store request =>
        cases request with
        | commitEffect | recordStep => exact recovery.elim
        | transitionEffect => exact Bool.and_false _
        | _ => rfl
    | outside request =>
        cases request with
        | execute => exact recovery.elim
        | _ => rfl
  · exact conforms_pure _

variable [Inhabited Args]

theorem clerk_store {request : StoreCall Args} {duty : Duty Args}
    {post : request.Answer → Duty Args → Prop} {failed : PyError → Duty Args → Prop}
    (here : duty.allowed live (.store request))
    (answered : ∀ answer, post answer (duty.note (.store request) (.ok answer)))
    (raised : ∀ error, failed error (duty.note (.store request) (.error error))) :
    wp (clerk live) (onStore request) post failed duty :=
  wp_noting here answered raised

/-- The step that was executed is committed, and then it is written. -/
theorem clerk_commit_step (journaled : self.store = .journaled) (result : ExecuteResult Args) :
    wp (clerk live) (self.commitStep sagaId step result) (fun _ duty => duty.Free)
      (fun _ duty => duty.Free) (.executed sagaId step result) := by
  unfold commitStep markApplied
  rw [wp_bind, if_pos (journals_of_journaled journaled), wp_bind, wp_flagged]
  apply clerk_store
  · exact fun _ missing => absurd missing (by decide)
  · intro effect
    rw [wp_pure, wp_bind, wp_flagged]
    refine wp_noting trivial (fun _ => ?_) fun _ => trivial
    unfold publishStep
    rw [wp_bind, if_pos (journals_of_journaled journaled), wp_bind, wp_flagged]
    apply clerk_store
    · exact ⟨step, result, rfl, rfl⟩
    · intro effect
      rw [wp_pure, wp_bind, wp_flagged, record_history_journaled journaled]
      apply clerk_store
      · exact ⟨step, result, rfl, rfl⟩
      · exact fun _ => trivial
      · exact fun _ => trivial
    · exact fun _ => trivial
  · exact fun _ => trivial

theorem clears_execute_step (journaled : self.store = .journaled) :
    Clears live (self.executeStep sagaId step) := by
  intro duty free
  apply execute_step_rule Duty.Free
  · exact clears_quiet quiet_mark_executing duty free
  · intro marked free
    refine wp_noting free (fun result => ?_) fun _ => trivial
    split
    · rename_i succeeded
      simp only [Duty.note, succeeded]
      exact clerk_commit_step journaled result
    · rename_i failed
      simp only [Duty.note, failed]
      exact clears_quiet (quiet_abort_step result) _ trivial

variable [DecidableEq Args]

theorem clears_attempt_step (journaled : self.store = .journaled)
    (before after : List (SagaStep Args)) :
    Clears live (self.attemptStep sagaId before step after) := by
  apply clears_bind (clears_quiet (quiet_flagged (quiet_outside rfl) _ _))
  intro verdict
  apply clears_ite
  · have checks : Uses (Quiet live) (self.preflight step) :=
      conforms_ite (quiet_outside rfl) (conforms_pure _)
    apply clears_bind (clears_quiet (quiet_flagged checks _ _))
    intro _
    apply clears_ite
    · apply clears_bind (clears_quiet (quiet_flagged (quiet_await_approval _) _ _))
      exact fun _ => clears_pure _
    · exact clears_bind (clears_execute_step journaled) fun _ => clears_pure _
  · apply clears_bind (clears_quiet (quiet_flagged quiet_execute_compensations _ _))
    exact fun _ => clears_pure _

theorem clears_execute_steps (journaled : self.store = .journaled)
    (before steps : List (SagaStep Args)) :
    Clears live (self.executeSteps sagaId before steps) := by
  induction steps generalizing before with
  | nil =>
      apply clears_bind (clears_quiet (quiet_memory _))
      intro _
      apply clears_bind (clears_quiet (quiet_write_status _ _))
      exact fun _ => clears_bind (clears_quiet (quiet_memory _)) fun _ => clears_pure _
  | cons step after ih =>
      have asks : Uses (Quiet live) (self.alreadyCommitted sagaId step) :=
        conforms_ite (quiet_store rfl) (conforms_pure _)
      apply clears_bind (clears_quiet asks)
      intro skip
      apply clears_ite (ih _)
      apply clears_bind
      · apply clears_attempt (clears_attempt_step journaled _ _)
        exact fun fault => clears_bind (clears_quiet (quiet_fail_step _)) fun _ => clears_pure _
      · intro outcome
        cases outcome with
        | none => exact clears_pure _
        | some committed => exact ih _

theorem clears_execute_saga (journaled : self.store = .journaled) (steps : List (SagaStep Args)) :
    Clears live (self.executeSaga sagaId steps) := by
  apply clears_bind (clears_quiet (quiet_memory _))
  exact fun _ => clears_ite (clears_execute_steps journaled _ _) (clears_raise _)

theorem clears_resume (journaled : self.store = .journaled) :
    Clears live (self.resumeAfterApproval sagaId : Action Args Bool) := by
  apply clears_bind (clears_quiet (quiet_memory _))
  intro saga
  cases saga with
  | none => exact clears_raise _
  | some saga =>
      apply clears_ite (clears_raise _)
      apply clears_bind (clears_quiet (quiet_memory _))
      intro _
      apply clears_bind (clears_quiet (quiet_memory _))
      intro _
      apply clears_bind (clears_quiet (quiet_write_status _ _))
      exact fun _ => clears_execute_saga journaled _

omit [DecidableEq Args] in
theorem clears_reject : Clears live (self.rejectPending sagaId : Action Args Bool) := by
  apply clears_bind (clears_quiet (quiet_memory _))
  intro saga
  cases saga with
  | none => exact clears_raise _
  | some saga =>
      apply clears_ite (clears_raise _)
      apply clears_bind (clears_quiet (quiet_memory _))
      intro _
      apply clears_bind (clears_quiet (quiet_write_status _ _))
      intro _
      exact clears_bind (clears_quiet quiet_execute_compensations) fun _ => clears_pure _

/-- Every call of an operator writes down what it has committed, and no more. -/
theorem clears_api_call (journaled : self.store = .journaled) (request : ApiCall Args)
    (forward : live = true → request ≠ .recover) : Clears live (request.program self) := by
  cases request with
  | start sagaId goal tenantId =>
      apply clears_bind (clears_quiet (quiet_memory _))
      intro known
      apply clears_ite (clears_raise _)
      apply clears_bind (clears_quiet (quiet_memory _))
      exact fun _ => clears_quiet (quiet_write_status _ _)
  | execute sagaId steps =>
      exact clears_bind (clears_execute_saga journaled steps) fun _ => clears_pure _
  | resume sagaId => exact clears_bind (clears_resume journaled) fun _ => clears_pure _
  | reject sagaId => exact clears_bind clears_reject fun _ => clears_pure _
  | recover =>
      cases live with
      | true => exact absurd rfl (forward rfl)
      | false => exact clears_bind (clears_quiet quiet_recover) fun _ => clears_pure _

end Programs

section Records

variable {before after : Cluster Args} {trace : List (Event (coordinatorFace Args))}
  {event : Event (coordinatorFace Args)} {sagaId stepId : String} {step : SagaStep Args}
  {result : ExecuteResult Args} {entry : HistoryEntry Args}

def past : EffectState → Bool
  | .committed | .compensating | .compensated | .compensationFailed => true
  | _ => false

def Sealed (store : Store Args) (sagaId stepId : String) : Prop :=
  ∃ record, store.effect? sagaId stepId = some record ∧ past record.state = true

/-- The sandbox has executed the step with this result, once its record was there. -/
structure Done (store : Store Args) (trace : List (Event (coordinatorFace Args)))
    (sagaId : String) (step : SagaStep Args) (result : ExecuteResult Args) : Prop where
  succeeded : result.succeeded = true
  executed : ⟨.outside (.execute sagaId step), .ok result⟩ ∈ trace
  registered : Registered store (step.ticket sagaId)

theorem Sealed.moved {old new : Store Args} (done : Sealed old sagaId stepId)
    (moves : Moves (old.effect? sagaId stepId) (new.effect? sagaId stepId)) :
    Sealed new sagaId stepId := by
  obtain ⟨record, found, settled⟩ := done
  rw [found] at moves
  generalize arrived : new.effect? sagaId stepId = now at moves
  cases moves with
  | stay => exact ⟨record, arrived, settled⟩
  | move old state result error along =>
      refine ⟨_, arrived, ?_⟩
      cases shape : record.state <;> rw [shape] at along settled <;> cases settled <;>
        cases state <;> first | rfl | cases along

structure Concluded (store : Store Args) (trace : List (Event (coordinatorFace Args)))
    (sagaId : String) (step : SagaStep Args) (result : ExecuteResult Args) : Prop where
  done : Done store trace sagaId step result
  answered : ∃ key effect, ⟨.store (.commitEffect sagaId step.stepId key), .ok effect⟩ ∈ trace
  settled : Sealed store sagaId step.stepId

theorem Done.moved {old new : Store Args} (done : Done old trace sagaId step result)
    (moves : Moves (old.effect? sagaId step.stepId) (new.effect? sagaId step.stepId)) :
    Done new (trace ++ [event]) sagaId step result where
  succeeded := done.succeeded
  executed := List.mem_append_left _ done.executed
  registered := registered_moves done.registered moves

theorem Concluded.moved {old new : Store Args}
    (concluded : Concluded old trace sagaId step result)
    (moves : Moves (old.effect? sagaId step.stepId) (new.effect? sagaId step.stepId)) :
    Concluded new (trace ++ [event]) sagaId step result where
  done := concluded.done.moved moves
  answered := by
    obtain ⟨key, effect, answered⟩ := concluded.answered
    exact ⟨key, effect, List.mem_append_left _ answered⟩
  settled := concluded.settled.moved moves

variable [Inhabited Args]

/-- An entry of the history stands for a step that was done and committed. -/
def Written (store : Store Args) (trace : List (Event (coordinatorFace Args))) (sagaId : String)
    (entry : HistoryEntry Args) (stepId : String) : Prop :=
  ∃ step result, step.stepId = stepId ∧ entry = entryOf step result ∧
    Concluded store trace sagaId step result

theorem Written.moved {old new : Store Args} (written : Written old trace sagaId entry stepId)
    (moves : Moves (old.effect? sagaId stepId) (new.effect? sagaId stepId)) :
    Written new (trace ++ [event]) sagaId entry stepId := by
  obtain ⟨step, result, rfl, same, concluded⟩ := written
  exact ⟨step, result, rfl, same, concluded.moved moves⟩

def owed (sagaId : String) (notes : List (Progress Args × Duty Args)) : List String :=
  notes.filterMap fun noted => noted.2.owes? sagaId

omit [Inhabited Args] in
theorem owed_around (sagaId : String) (left right : List (Progress Args × Duty Args))
    (noted : Progress Args × Duty Args) : owed sagaId (left ++ noted :: right) =
      owed sagaId left ++ ((noted.2.owes? sagaId).toList ++ owed sagaId right) := by
  unfold owed
  rw [List.filterMap_append, List.filterMap_cons]
  cases noted.2.owes? sagaId <;> rfl

/-- The record says that the step is committed. -/
def Committed (store : Store Args) (sagaId stepId : String) : Prop :=
  ∃ record, store.effect? sagaId stepId = some record ∧ record.state = .committed

/-- The invariant of the history. Where no step is lost, every committed record
has its entry or is owed one. -/
structure Booked (live : Bool) (cluster : Cluster Args)
    (trace : List (Event (coordinatorFace Args))) (notes : List (Progress Args × Duty Args)) :
    Prop where
  executed : ∀ noted ∈ notes, ∀ sagaId step result, noted.2 = .executed sagaId step result →
    Done cluster.store trace sagaId step result
  committed : ∀ noted ∈ notes, ∀ sagaId step result, noted.2 = .committed sagaId step result →
    Concluded cluster.store trace sagaId step result
  written : ∀ sagaId, ∃ stepIds,
    List.Forall₂ (Written cluster.store trace sagaId) (cluster.store.history sagaId) stepIds ∧
      (stepIds ++ owed sagaId notes).Nodup ∧ (live = true → ∀ stepId,
        Committed cluster.store sagaId stepId → stepId ∈ stepIds ++ owed sagaId notes)

variable {live : Bool}

theorem sealed_entries {store : Store Args} {entries : List (HistoryEntry Args)}
    {stepIds : List String} (written : List.Forall₂ (Written store trace sagaId) entries stepIds) :
    ∀ stepId ∈ stepIds, Sealed store sagaId stepId := by
  induction written with
  | nil => exact fun stepId member => absurd member List.not_mem_nil
  | cons first _ ih =>
      obtain ⟨step, result, rfl, _, concluded⟩ := first
      exact List.forall_mem_cons.mpr ⟨concluded.settled, ih⟩

theorem Booked.sealed_owed {notes : List (Progress Args × Duty Args)}
    (booked : Booked live before trace notes) :
    ∀ stepId ∈ owed sagaId notes, Sealed before.store sagaId stepId := by
  intro stepId waiting
  obtain ⟨⟨progress, duty⟩, member, owes⟩ := List.mem_filterMap.mp waiting
  cases duty with
  | idle | executed => cases owes
  | committed owner step result =>
      simp only [Duty.owes?] at owes
      split at owes
      · rename_i same
        cases same
        cases owes
        exact (booked.committed _ member _ _ _ rfl).settled
      · cases owes

inductive Filed (old new : Store Args) (trace : List (Event (coordinatorFace Args)))
    (sagaId : String) (duty next : Duty Args) : Prop
  | nothing (same : new.history sagaId = old.history sagaId)
      (owes : next.owes? sagaId = duty.owes? sagaId)
  | commit (stepId : String) (same : new.history sagaId = old.history sagaId)
      (free : duty.owes? sagaId = none) (owes : next.owes? sagaId = some stepId)
      (unsealed : ¬ Sealed old sagaId stepId)
  | record (stepId : String) (entry : HistoryEntry Args)
      (longer : new.history sagaId = old.history sagaId ++ [entry])
      (owes : duty.owes? sagaId = some stepId) (free : next.owes? sagaId = none)
      (written : Written new trace sagaId entry stepId)

variable {left right : List (Progress Args × Duty Args)} {noted next : Progress Args × Duty Args}

theorem Filed.entries {old new : Store Args} {stepIds : List String}
    (filed : Filed old new trace sagaId noted.2 next.2)
    (written : List.Forall₂ (Written new trace sagaId) (old.history sagaId) stepIds)
    (distinct : (stepIds ++ owed sagaId (left ++ noted :: right)).Nodup)
    (all : ∀ stepId ∈ stepIds ++ owed sagaId (left ++ noted :: right), Sealed old sagaId stepId) :
    ∃ longer, List.Forall₂ (Written new trace sagaId) (new.history sagaId) longer ∧
      (longer ++ owed sagaId (left ++ next :: right)).Nodup ∧
      stepIds ++ owed sagaId (left ++ noted :: right) ⊆
        longer ++ owed sagaId (left ++ next :: right) := by
  rw [owed_around] at distinct all ⊢
  rw [owed_around]
  cases filed with
  | nothing same owes =>
      rw [owes, same]
      exact ⟨stepIds, written, distinct, List.Subset.refl _⟩
  | commit stepId same free owes unsealed =>
      rw [free] at distinct all ⊢
      rw [owes, same]
      have fresh : stepId ∉ stepIds ++ (owed sagaId left ++ owed sagaId right) :=
        fun member => unsealed (all stepId member)
      have first : (stepIds ++ (owed sagaId left ++ stepId :: owed sagaId right)).Perm
          (stepId :: (stepIds ++ (owed sagaId left ++ owed sagaId right))) := by
        rw [← List.append_assoc, ← List.append_assoc]
        exact List.perm_middle
      refine ⟨stepIds, written, ?_, ?_⟩
      · exact first.nodup_iff.mpr (List.nodup_cons.mpr ⟨fresh, distinct⟩)
      · exact fun id member => first.symm.subset (List.mem_cons_of_mem stepId member)
  | record stepId entry longer owes free done =>
      rw [owes] at distinct ⊢
      rw [free, longer]
      have first : (stepIds ++ [stepId] ++ (owed sagaId left ++ owed sagaId right)).Perm
          (stepIds ++ (owed sagaId left ++ stepId :: owed sagaId right)) := by
        rw [List.append_assoc, List.singleton_append]
        exact List.perm_middle.symm.append_left stepIds
      refine ⟨stepIds ++ [stepId], List.rel_append written (.cons done .nil), ?_, ?_⟩
      · exact first.nodup_iff.mpr distinct
      · exact first.symm.subset

/-- One call: what the others know stays, and what is owed is accounted for. -/
theorem Booked.advance (booked : Booked live before trace (left ++ noted :: right))
    (moves : ∀ sagaId stepId,
      Moves (before.store.effect? sagaId stepId) (after.store.effect? sagaId stepId))
    (executed : ∀ sagaId step result, next.2 = .executed sagaId step result →
      Done after.store (trace ++ [event]) sagaId step result)
    (committed : ∀ sagaId step result, next.2 = .committed sagaId step result →
      Concluded after.store (trace ++ [event]) sagaId step result)
    (filed : ∀ sagaId, Filed before.store after.store (trace ++ [event]) sagaId noted.2 next.2)
    (commits : live = true → ∀ sagaId stepId, Committed after.store sagaId stepId →
      Committed before.store sagaId stepId ∨ next.2.owes? sagaId = some stepId) :
    Booked live after (trace ++ [event]) (left ++ next :: right) where
  executed := by
    have others : ∀ other ∈ left ++ noted :: right, ∀ sagaId step result,
        other.2 = .executed sagaId step result →
          Done after.store (trace ++ [event]) sagaId step result :=
      fun other member sagaId step result runs =>
        (booked.executed other member sagaId step result runs).moved (moves sagaId step.stepId)
    exact Setting.every_replaced others executed
  committed := by
    have others : ∀ other ∈ left ++ noted :: right, ∀ sagaId step result,
        other.2 = .committed sagaId step result →
          Concluded after.store (trace ++ [event]) sagaId step result :=
      fun other member sagaId step result owes =>
        (booked.committed other member sagaId step result owes).moved (moves sagaId step.stepId)
    exact Setting.every_replaced others committed
  written := by
    intro sagaId
    obtain ⟨stepIds, entries, distinct, complete⟩ := booked.written sagaId
    have known := List.forall_mem_append.mpr ⟨sealed_entries entries, booked.sealed_owed⟩
    obtain ⟨longer, written, apart, kept⟩ := (filed sagaId).entries (entries.imp
      fun entry stepId written => written.moved (moves sagaId stepId)) distinct known
    refine ⟨longer, written, apart, fun lasting stepId committed => ?_⟩
    rcases commits lasting sagaId stepId committed with before | owes
    · exact kept (complete lasting stepId before)
    · rw [owed_around, owes]
      simp

end Records

section Steps

variable [DecidableEq Args] [Inhabited Args] {request : Call Args}
  {reply : Except PyError request.Answer} {duty : Duty Args} {before after : Cluster Args}
  {owner : Nat} {trace : List (Event (coordinatorFace Args))} {sagaId : String}
  {step : SagaStep Args} {result : ExecuteResult Args}
  {left right : List (Progress Args × Duty Args)} {noted : Progress Args × Duty Args} {live : Bool}

omit [DecidableEq Args] [Inhabited Args] in
theorem note_executed (runs : duty.note request reply = .executed sagaId step result) :
    duty = .executed sagaId step result ∨ result.succeeded = true ∧
      (⟨request, reply⟩ : Event (coordinatorFace Args)) =
        ⟨.outside (.execute sagaId step), .ok result⟩ := by
  cases request with
  | memory request => exact .inl runs
  | store request =>
      cases request with
      | commitEffect =>
          cases reply with
          | error error => exact .inl runs
          | ok effect => cases duty <;> cases runs
      | recordStep => cases runs
      | _ => exact .inl runs
  | outside request =>
      cases request with
      | execute other ran =>
          cases reply with
          | error error => cases runs
          | ok answer =>
              by_cases succeeded : answer.succeeded = true
              · simp only [Duty.note, succeeded, if_true] at runs
                cases runs
                exact .inr ⟨succeeded, rfl⟩
              · simp only [Duty.note, succeeded] at runs
                cases runs
      | _ => exact .inl runs

omit [DecidableEq Args] [Inhabited Args] in
theorem note_committed (owes : duty.note request reply = .committed sagaId step result) :
    duty = .committed sagaId step result ∨ duty = .executed sagaId step result ∧
      ∃ other stepId key effect, (⟨request, reply⟩ : Event (coordinatorFace Args)) =
        ⟨.store (.commitEffect other stepId key), .ok effect⟩ := by
  cases request with
  | memory request => exact .inl owes
  | store request =>
      cases request with
      | commitEffect =>
          cases reply with
          | error error => exact .inl owes
          | ok effect =>
              cases duty with
              | executed =>
                  cases owes
                  exact .inr ⟨rfl, _, _, _, _, rfl⟩
              | _ => cases owes <;> exact .inl rfl
      | recordStep => cases owes
      | _ => exact .inl owes
  | outside request =>
      cases request with
      | execute other ran =>
          cases reply with
          | error error => cases owes
          | ok answer =>
              simp only [Duty.note] at owes
              split at owes <;> cases owes
      | _ => exact .inl owes

omit [Inhabited Args] in
theorem history_serve (store : Store Args) (request : StoreCall Args)
    (other : ∀ owner entry, request ≠ .recordStep owner entry) :
    (request.serve store).2.history = store.history := by
  cases request with
  | prepareEffect owner stepId stepName action compensation key =>
      rcases store.prepare_effect_cases owner stepId stepName action compensation key with
        ⟨_, _, _, same⟩ | ⟨_, same⟩ | ⟨_, _, _, same⟩ <;> rw [StoreCall.serve, same]
      rfl
  | transitionEffect owner stepId expected newState result error =>
      rcases store.transition_effect_cases owner stepId expected newState result error with
        ⟨_, _, _, same⟩ | ⟨_, _, same⟩ <;> rw [StoreCall.serve, same]
      rfl
  | commitEffect owner stepId key =>
      rcases store.commit_effect_cases owner stepId key with
        ⟨entry, _, _, same⟩ | ⟨_, _, same⟩ <;> rw [StoreCall.serve, same]
      · unfold Store.publish
        split <;> rfl
  | recordStep owner entry => exact absurd rfl (other owner entry)
  | _ => rfl

omit [DecidableEq Args] [Inhabited Args] in
theorem commit_sealed {store : Store Args} {stepId : String} {key : Option String}
    {effect : Effect Args} (answered : (store.commitEffect sagaId stepId key).1 = .ok effect) :
    ¬ Sealed store sagaId stepId ∧
      Sealed (store.commitEffect sagaId stepId key).2 sagaId stepId := by
  rcases store.commit_effect_cases sagaId stepId key with
    ⟨entry, found, legal, same⟩ | ⟨_, refusal, same⟩ <;> rw [same] at answered ⊢
  · constructor
    · rintro ⟨record, known, settled⟩
      rw [found] at known
      cases known
      rw [legal] at settled
      cases settled
    · have mine : entry.stepId = stepId := Table.find_key found
      refine ⟨{ entry with state := .committed }, ?_, rfl⟩
      rw [Store.effect_publish, Store.effect_put_effect, if_pos ⟨rfl, mine⟩]
  · cases answered

theorem committed_serve {store : Store Args} {request : StoreCall Args} {stepId : String}
    (along : request.alongDiagram) (here : Duty.allowed true (.store request) duty)
    (committed : Committed (request.serve store).2 sagaId stepId) :
    Committed store sagaId stepId ∨ ∃ key, request = .commitEffect sagaId stepId key ∧
      ∃ effect, (store.commitEffect sagaId stepId key).1 = .ok effect := by
  obtain ⟨record, found, state⟩ := committed
  cases request with
  | prepareEffect owner id stepName action compensation key =>
      rw [StoreCall.serve] at found
      rcases store.prepare_effect_cases owner id stepName action compensation key with
        ⟨_, _, _, same⟩ | ⟨_, same⟩ | ⟨entry, _, shape, same⟩ <;> rw [same] at found
      · exact .inl ⟨record, found, state⟩
      · exact .inl ⟨record, found, state⟩
      · rw [Store.effect_put_effect] at found
        split at found
        · cases found
          rw [shape] at state
          cases state
        · exact .inl ⟨record, found, state⟩
  | transitionEffect owner id expected newState result error =>
      rw [StoreCall.serve] at found
      rcases store.transition_effect_cases owner id expected newState result error with
        ⟨entry, _, legal, same⟩ | ⟨_, _, same⟩ <;> rw [same] at found
      · rw [Store.effect_put_effect] at found
        split at found
        · cases found
          obtain rfl : newState = .committed := state
          have edged := along entry.state legal
          cases shape : entry.state <;> rw [shape] at edged legal <;> cases edged
          exact absurd rfl (here rfl legal)
        · exact .inl ⟨record, found, state⟩
      · exact .inl ⟨record, found, state⟩
  | commitEffect owner id key =>
      rw [StoreCall.serve] at found
      rcases store.commit_effect_cases owner id key with
        ⟨entry, known, _, same⟩ | ⟨_, _, same⟩ <;> rw [same] at found
      · rw [Store.effect_publish, Store.effect_put_effect] at found
        split at found
        · rename_i own
          obtain ⟨rfl, mine⟩ := own
          have owner : entry.stepId = id := Table.find_key known
          obtain rfl : id = stepId := owner.symm.trans mine
          exact .inr ⟨key, rfl, _, by rw [same]⟩
        · exact .inl ⟨record, found, state⟩
      · exact .inl ⟨record, found, state⟩
  | _ => exact .inl ⟨record, found, state⟩

theorem filed_call (here : duty.allowed live request)
    (served : serveInCluster owner request before reply after)
    (committed : ∀ sagaId step result, duty = .committed sagaId step result →
      Concluded after.store (trace ++ [⟨request, reply⟩]) sagaId step result) (sagaId : String) :
    Filed before.store after.store (trace ++ [⟨request, reply⟩]) sagaId duty
      (duty.note request reply) := by
  rcases request with request | request | request
  · obtain ⟨-, rfl⟩ := served
    exact .nothing rfl rfl
  · obtain ⟨rfl, rfl⟩ := served
    cases request with
    | commitEffect other stepId key =>
        have same := history_serve before.store (.commitEffect other stepId key) (by simp)
        obtain ⟨step, result, rfl, mine⟩ := here
        generalize answered :
          (StoreCall.serve (.commitEffect other stepId key) before.store).1 = reply
        cases reply with
        | error error => exact .nothing (congrFun same sagaId) rfl
        | ok effect =>
            obtain ⟨unsealed, _⟩ := commit_sealed answered
            by_cases own : other = sagaId
            · subst own mine
              exact .commit step.stepId (congrFun same _) rfl (if_pos rfl) unsealed
            · exact .nothing (congrFun same sagaId) (if_neg own)
    | recordStep other entry =>
        obtain ⟨step, result, rfl, rfl⟩ := here
        have concluded := committed other step result rfl
        by_cases own : other = sagaId
        · subst own
          exact .record step.stepId _ (Function.update_self ..) (if_pos rfl) rfl
            ⟨step, result, rfl, rfl, concluded⟩
        · exact .nothing (Function.update_of_ne (Ne.symm own) ..) (if_neg own).symm
    | prepareEffect | transitionEffect =>
        exact .nothing (congrFun (history_serve before.store _ (by simp)) sagaId) rfl
    | _ => exact .nothing rfl rfl
  · obtain rfl := served
    cases request with
    | execute other ran =>
        have free : duty.owes? sagaId = none := by
          cases duty with
          | committed => exact here.elim
          | _ => rfl
        refine .nothing rfl (Eq.trans ?_ free.symm)
        cases reply with
        | error error => rfl
        | ok answer =>
            simp only [Duty.note]
            split <;> rfl
    | _ => exact .nothing rfl rfl

theorem booked_call (kept : Kept before trace ((left ++ noted :: right).map Prod.fst))
    (booked : Booked live before trace (left ++ noted :: right))
    (here : Progress.allowed request noted.1) (dutiful : noted.2.allowed live request)
    (served : serveInCluster owner request before reply after) :
    Booked live after (trace ++ [⟨request, reply⟩])
      (left ++ (noted.1.note request reply, noted.2.note request reply) :: right) := by
  have along := Progress.allowed_along here
  have moves := journal_moves along served
  have first : noted ∈ left ++ noted :: right := List.mem_append_cons_self
  have executed : ∀ sagaId step result, noted.2 = .executed sagaId step result →
      Done after.store (trace ++ [⟨request, reply⟩]) sagaId step result :=
    fun sagaId step result runs =>
      (booked.executed noted first sagaId step result runs).moved (moves sagaId step.stepId)
  have committed : ∀ sagaId step result, noted.2 = .committed sagaId step result →
      Concluded after.store (trace ++ [⟨request, reply⟩]) sagaId step result :=
    fun sagaId step result owes =>
      (booked.committed noted first sagaId step result owes).moved (moves sagaId step.stepId)
  apply booked.advance moves
  · intro sagaId step result runs
    rcases note_executed runs with before | ⟨succeeded, event⟩
    · exact executed sagaId step result before
    · cases event
      obtain rfl := served
      have armed : noted.1.stage = .armed (step.ticket sagaId) := here
      have ticket := kept.registered noted.1 (List.mem_map_of_mem first) (step.ticket sagaId)
        (by rw [armed]; rfl)
      exact ⟨succeeded, List.mem_append_right _ (List.mem_singleton.mpr rfl), ticket⟩
  · intro sagaId step result owes
    rcases note_committed owes with before | ⟨ran, other, stepId, key, effect, event⟩
    · exact committed sagaId step result before
    · cases event
      obtain ⟨own, _, same, mine⟩ := dutiful
      rw [ran] at same
      cases same
      obtain ⟨answered, rfl⟩ := served
      subst mine
      refine ⟨executed _ _ _ ran, ⟨key, effect, ?_⟩, (commit_sealed answered.symm).2⟩
      exact List.mem_append_right _ (List.mem_singleton.mpr rfl)
  · exact filed_call dutiful served committed
  · rintro rfl sagaId stepId settled
    rcases request with request | request | request
    · obtain ⟨-, rfl⟩ := served
      exact .inl settled
    · obtain ⟨rfl, rfl⟩ := served
      rcases committed_serve along dutiful settled with known | ⟨key, rfl, effect, answered⟩
      · exact .inl known
      · obtain ⟨step, result, ran, rfl⟩ := dutiful
        right
        change Duty.owes? sagaId (Duty.note (.store (.commitEffect sagaId step.stepId key))
          (before.store.commitEffect sagaId step.stepId key).1 noted.2) = some step.stepId
        rw [ran, answered]
        exact if_pos rfl
    · obtain rfl := served
      exact .inl settled

end Steps

section Runs

variable [DecidableEq Args] [Inhabited Args] {admits : ApiCall Args → Prop} {crashes : Prop}
  {live : Bool}

abbrev clerks (admits : ApiCall Args → Prop) (crashes : Prop) :
    Setting (coordinatorFace Args) PyError Unit Nat (Progress Args × Duty Args) (Cluster Args) :=
  (cluster admits crashes fun _ _ _ _ => True).annotated .idle Duty.note

abbrev Dutiful (live : Bool) (request : Call Args) (noted : Progress Args × Duty Args) : Prop :=
  Progress.allowed request noted.1 ∧ Duty.allowed live request noted.2

/-- The journal of any cluster is kept as that of the workers is. -/
theorem cluster_keeps : (cluster admits crashes fun _ _ _ _ => True).Invariant
    (@Progress.allowed Args) Kept where
  spawned := workers_keep.spawned
  called := fun kept here others served => workers_keep.called kept here others served
  crashed := fun kept fewer lost => workers_keep.crashed kept fewer ⟨trivial, lost.2⟩

theorem books_keep (lasting : live = true → ¬ crashes) :
    (clerks admits crashes).Invariant (Dutiful live) fun cluster trace notes =>
      Kept cluster trace (notes.map Prod.fst) ∧ Booked live cluster trace notes := by
  have kept : (clerks admits crashes).Invariant (Dutiful live) fun cluster trace notes =>
      Kept cluster trace (notes.map Prod.fst) := cluster_keeps.annotated
  constructor
  · rintro shared trace notes ⟨journal, booked⟩
    refine ⟨kept.spawned journal, ?_⟩
    constructor
    · refine List.forall_mem_append.mpr ⟨booked.executed, ?_⟩
      exact List.forall_mem_singleton.mpr fun _ _ _ runs => by cases runs
    · refine List.forall_mem_append.mpr ⟨booked.committed, ?_⟩
      exact List.forall_mem_singleton.mpr fun _ _ _ owes => by cases owes
    · intro sagaId
      have same : owed sagaId (notes ++ [(clerks admits crashes).start]) = owed sagaId notes :=
        (owed_around sagaId notes [] _).trans (List.append_nil _)
      rw [same]
      exact booked.written sagaId
  · rintro shared after trace left right noted owner request reply ⟨journal, booked⟩ here others
      served
    refine ⟨kept.called journal here others served, ?_⟩
    exact booked_call journal booked here.1 here.2 served
  · rintro shared after trace notes survivors owner ⟨journal, booked⟩ fewer lost
    refine ⟨kept.crashed journal fewer lost, ?_⟩
    obtain ⟨crashed, rfl⟩ := lost
    constructor
    · exact fun noted member => booked.executed noted (fewer.subset member)
    · exact fun noted member => booked.committed noted (fewer.subset member)
    · intro sagaId
      obtain ⟨stepIds, entries, distinct, -⟩ := booked.written sagaId
      refine ⟨stepIds, entries, distinct.sublist ?_, fun steady => absurd crashed (lasting steady)⟩
      exact List.Sublist.append_left (fewer.filterMap _) _

theorem clerks_dutiful (forward : live = true → ∀ request, admits request → request ≠ .recover)
    (owner : Nat) (program : Action Args Unit)
    (admitted : (clerks admits crashes).admits owner program) :
    (clerks admits crashes).Serves (fun _ => Dutiful live) (fun _ _ noted => noted.2.Free)
      (fun _ _ noted => noted.2.Free) ⟨owner, program, (clerks admits crashes).start⟩ := by
  have obeys := @cluster_obeys Args _ _ admits crashes (fun _ _ _ _ => True) owner program admitted
  obtain ⟨self, request, journaled, listed, rfl⟩ := admitted
  exact wp_annotated obeys
    (clears_api_call journaled request (fun steady => forward steady request listed) .idle trivial)

theorem steady_seats : SeatInvariant (clerks admits crashes) (fun _ => Dutiful live)
    fun _ _ => True where
  spawned := fun _ _ => trivial
  called := fun _ _ _ _ => trivial
  crashed := fun _ _ => trivial

omit [DecidableEq Args] in
theorem booked_empty (memories : Nat → Memory Args) : Booked live ⟨.empty, memories⟩ [] [] where
  executed := fun _ member => absurd member List.not_mem_nil
  committed := fun _ member => absurd member List.not_mem_nil
  written := by
    refine fun sagaId => ⟨[], .nil, .nil, fun _ stepId committed => ?_⟩
    obtain ⟨record, found, _⟩ := committed
    cases found

theorem free_finished {program : Action Args Unit} {noted : Progress Args × Duty Args}
    (paying : wp ((clerks admits crashes).discipline (Dutiful live)) program
      (fun _ noted => noted.2.Free) (fun _ noted => noted.2.Free) noted)
    (finished : program.finished = true) (sagaId : String) : noted.2.owes? sagaId = none := by
  have free : noted.2.Free := by
    cases program with
    | done value => exact paying
    | raise error => exact paying
    | call request next => cases finished
  cases shape : noted.2 with
  | committed =>
      rw [shape] at free
      exact free.elim
  | _ => rfl

theorem reachable_booked (lasting : live = true → ¬ crashes)
    (forward : live = true → ∀ request, admits request → request ≠ .recover)
    {memories : Nat → Memory Args}
    {pool : Pool (coordinatorFace Args) PyError Unit Nat (Progress Args) (Cluster Args)}
    (reached : (cluster admits crashes fun _ _ _ _ => True).Reachable ⟨.empty, memories⟩ pool) :
    ∃ notes, Booked live pool.shared pool.trace notes ∧
      ((∀ thread ∈ pool.threads, thread.program.finished = true) →
        ∀ sagaId, owed sagaId notes = []) := by
  obtain ⟨marked, run, rfl⟩ := reachable_annotated reached Duty.idle Duty.note
  have dutiful := @clerks_dutiful Args _ _ admits crashes live forward
  have sound := Setting.reachable_sound (books_keep lasting)
    (fun owner program admitted => wp_mono (dutiful owner program admitted)
      (fun _ _ _ => trivial) fun _ _ _ => trivial)
    ⟨⟨fun _ member => absurd member List.not_mem_nil, fun _ _ => Nat.zero_le _⟩, booked_empty _⟩ run
  have serving := (reachable_seats steady_seats dutiful trivial run).1
  refine ⟨_, sound.holds.2, fun finished sagaId => List.filterMap_eq_nil_iff.mpr ?_⟩
  intro noted member
  obtain ⟨thread, listed, rfl⟩ := List.mem_map.mp member
  exact free_finished (serving thread listed) (finished _ (List.mem_map_of_mem listed)) sagaId

theorem step_grows
    {before after : Pool (coordinatorFace Args) PyError Unit Nat (Progress Args) (Cluster Args)}
    (taken : workers.Step before after) (sagaId : String) :
    before.shared.store.history sagaId <+: after.shared.store.history sagaId := by
  cases taken with
  | spawn => exact List.prefix_rfl
  | call permitted served =>
      rename_i left right owner request next noted reply trace
      rcases request with request | request | request
      · obtain ⟨-, rfl⟩ := served
        exact List.prefix_rfl
      · obtain ⟨-, rfl⟩ := served
        exact (Store.grows_serve request _).history sagaId
      · obtain rfl := served
        exact List.prefix_rfl
  | crash lost =>
      obtain ⟨-, rfl⟩ := lost
      exact List.prefix_rfl

/-- In every run, with crashes anywhere: each entry of a history stands for a
step of its own, which the sandbox has executed with that result and whose
record was committed, and no entry is ever taken back. -/
theorem history_written_once {memories : Nat → Memory Args}
    {pool : Pool (coordinatorFace Args) PyError Unit Nat (Progress Args) (Cluster Args)}
    (reached : workers.Reachable ⟨.empty, memories⟩ pool) (sagaId : String) :
    (∃ stepIds, stepIds.Nodup ∧ List.Forall₂ (Written pool.shared.store pool.trace sagaId)
        (pool.shared.store.history sagaId) stepIds) ∧
      ∀ last, Relation.ReflTransGen workers.Step pool last →
        pool.shared.store.history sagaId <+: last.shared.store.history sagaId := by
  constructor
  · obtain ⟨notes, booked, -⟩ := @reachable_booked Args _ _ (fun _ => True) True false
      (fun steady => by cases steady) (fun steady => by cases steady) memories pool reached
    obtain ⟨stepIds, entries, distinct, -⟩ := booked.written sagaId
    exact ⟨stepIds, (List.nodup_append.mp distinct).1, entries⟩
  · intro last run
    induction run with
    | refl => exact List.prefix_rfl
    | tail _ taken ih => exact ih.trans (step_grows taken sagaId)

def interleaved (setting : Setting (coordinatorFace Unit) PyError Unit Nat (Progress Unit)
    (Cluster Unit)) :
    Pool (coordinatorFace Unit) PyError Unit Nat (Progress Unit) (Cluster Unit) :=
  rehearsed setting (fun _ _ _ _ => true) accepting
    [(0, .execute "s" [sampleStep "a" none]), (1, .execute "s" [sampleStep "b" none])]
    [0, 1, 0, 1, 0, 1, 0, 1, 0, 1, 0, 1, 0, 1, 0, 1, 0, 1, 0, 1, 0, 1, 0, 1, 0, 1]

theorem interleaved_written_once : ∃ stepIds : List String, stepIds.Nodup ∧
    stepIds.length = 2 ∧ List.Forall₂
      (Written (interleaved workers).shared.store (interleaved workers).trace "s")
      ((interleaved workers).shared.store.history "s") stepIds := by
  have reached : workers.Reachable ⟨.empty, fun _ => sampleMemory⟩ (interleaved workers) :=
    rehearsed_reachable (fun _ _ _ _ _ => trivial) accepting (fun _ _ => trivial) _
  obtain ⟨stepIds, distinct, written⟩ := (history_written_once reached "s").1
  have entries : ((interleaved workers).shared.store.history "s").length = 2 := by decide
  exact ⟨stepIds, distinct, written.length_eq.symm.trans entries, written⟩

/-- Where nothing dies and nothing is recovered, a history has the entry of every
committed step once all calls have ended. -/
theorem history_complete {memories : Nat → Memory Args}
    {pool : Pool (coordinatorFace Args) PyError Unit Nat (Progress Args) (Cluster Args)}
    (reached : (submissions fun _ _ _ _ => True).Reachable ⟨.empty, memories⟩ pool)
    (finished : ∀ thread ∈ pool.threads, thread.program.finished = true) (sagaId : String) :
    ∃ stepIds, stepIds.Nodup ∧ List.Forall₂ (Written pool.shared.store pool.trace sagaId)
        (pool.shared.store.history sagaId) stepIds ∧
      ∀ stepId, Committed pool.shared.store sagaId stepId → stepId ∈ stepIds := by
  obtain ⟨notes, booked, paid⟩ := @reachable_booked Args _ _ (· ≠ .recover) False true
    (fun _ died => died) (fun _ _ listed => listed) memories pool reached
  obtain ⟨stepIds, entries, distinct, complete⟩ := booked.written sagaId
  rw [paid finished, List.append_nil] at distinct complete
  exact ⟨stepIds, distinct, entries, complete rfl⟩

abbrev rivals : Pool (coordinatorFace Unit) PyError Unit Nat (Progress Unit) (Cluster Unit) :=
  interleaved (submissions fun _ _ _ _ => True)

theorem rivals_complete : ∃ stepIds, stepIds.Nodup ∧
    List.Forall₂ (Written rivals.shared.store rivals.trace "s")
      (rivals.shared.store.history "s") stepIds ∧
    ∀ stepId, Committed rivals.shared.store "s" stepId → stepId ∈ stepIds := by
  have reached : (submissions fun _ _ _ _ => True).Reachable ⟨.empty, fun _ => sampleMemory⟩
      rivals :=
    rehearsed_reachable (fun _ _ _ _ _ => trivial) accepting (by simp) _
  exact history_complete reached (by decide) "s"

example : (rivals.shared.store.history "s").map HistoryEntry.stepName = ["a", "b"] := by decide

end Runs

end SagaMind.StepHistory
