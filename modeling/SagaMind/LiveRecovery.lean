import SagaMind.Coordinator.Cluster
import SagaMind.Coordinator.Outline

/-!
# Recovery beside a live saga

A coordinator that starts runs `recover` on a store that other coordinators
work on. A saga that is still executing is listed as incomplete, and its
committed records may be claimed and compensated while it goes on to its end.
A saga none of whose committed records is claimed is not split: once it is
durably `COMMITTED`, all of its records are, and nothing was compensated.
-/

namespace SagaMind.LiveRecovery

open CallProgram KeyedTable Coordinator

set_option autoImplicit false

variable {Args : Type}

section Discipline

structure Watch where
  /-- The record that was prepared and is not committed. -/
  opened : Option String := none
  /-- A rollback was entered. -/
  fell : Bool := false
  /-- The batch was declared committed. -/
  closed : Bool := false

namespace Watch

def note : (request : Call Args) → Except PyError request.Answer → Watch → Watch
  | .store (.prepareEffect _ stepId ..), .ok _, watch => { watch with opened := some stepId }
  | .store (.commitEffect ..), .ok _, watch => { watch with opened := none }
  | .store (.writeTransactionState _ .compensating _), _, watch => { watch with fell := true }
  | .store (.writeTransactionState _ .committed _), _, watch => { watch with closed := true }
  | _, _, watch => watch

/-- A batch prepares one record after another, undoes nothing before it falls,
and is declared committed only when nothing is left open. -/
def allowed : Call Args → Watch → Prop
  | .store (.writeTransactionState _ .committed _), watch =>
      watch.fell = false ∧ watch.opened = none
  | .store (.writeTransactionState _ .compensating _), watch => watch.closed = false
  | .store (.prepareEffect ..), watch =>
      watch.fell = true ∨ watch.opened = none ∧ watch.closed = false
  | .store (.transitionEffect _ _ _ .compensating _ _), watch => watch.fell = true
  | .store (.appendCompensation ..), watch => watch.fell = true
  | .outside (.executeCompensation ..), watch => watch.fell = true
  | _, _ => True

end Watch

def listed (saga : IncompleteSaga Args) : List (String × Option String) :=
  let marked := saga.effects.filter (·.state = .compensating)
  marked.map (fun effect => (saga.sagaId, some effect.stepId)) ++
    if saga.compensations.isEmpty then [] else [(saga.sagaId, none)]

def restorable : (request : Call Args) → Except PyError request.Answer →
    List (String × Option String)
  | .store .listIncomplete, .ok sagas => sagas.flatMap listed
  | .store (.transitionEffect sagaId _ _ newState _ _), .ok effect =>
      if newState = .compensating ∨ effect.state = .compensating then
        [(sagaId, some effect.stepId)]
      else []
  | _, _ => []

def restores : Call Args → List (String × Option String) → Prop
  | .outside (.executeCompensation sagaId stepId _), seen => (sagaId, stepId) ∈ seen
  | _, _ => True

def watched : Machine (coordinatorFace Args) Watch := noting Watch.allowed Watch.note

def restoring : Machine (coordinatorFace Args) (List (String × Option String)) :=
  noting restores fun request reply seen => seen ++ restorable request reply

end Discipline

section Recovering

variable {self : Coordinator} {sagaId : String} {effect : Effect Args}
  {seen : List (String × Option String)}

theorem wp_grows {Value : Type} {action : Action Args Value}
    {post : Value → List (String × Option String) → Prop}
    {failed : PyError → List (String × Option String) → Prop}
    (run : wp restoring action post failed seen) :
    wp restoring action (fun value after => post value after ∧ seen ⊆ after)
      (fun error after => failed error after ∧ seen ⊆ after) seen := by
  have free : Uses (fun _ => True) action := conforms_free (fun _ _ => trivial) action
  exact @wp_related (coordinatorFace Args) _ PyError Value restoring (fun _ => True)
    (fun before after => before ⊆ after) (fun _ => List.Subset.refl _)
    (fun left right => List.Subset.trans left right)
    (fun request before reply after _ taken => by
      rw [taken]
      exact List.subset_append_left ..)
    action free post failed seen run

theorem quiet_store {request : StoreCall Args} :
    Conforms restoring (onStore request : Action Args request.Answer) :=
  @conforms_perform (coordinatorFace Args) _ restoring _ fun _ => trivial

theorem quiet_dead_letter (stepName error : String) :
    Conforms restoring (deadLetterRecovery sagaId stepName error : Action Args Unit) :=
  conforms_bind quiet_store fun _ => quiet_store

theorem quiet_mark_ambiguous (error : String) :
    Conforms restoring (markAmbiguous sagaId effect error) := by
  apply conforms_bind
  · apply conforms_ite
    · exact conforms_bind quiet_store fun _ => conforms_pure _
    · exact conforms_pure _
  · exact fun _ => quiet_dead_letter _ _

theorem quiet_fail_recovery_compensation (error : String) :
    Conforms restoring (failRecoveryCompensation sagaId effect error) :=
  conforms_bind quiet_store fun _ => quiet_dead_letter _ _

theorem quiet_resolve_forward_effect : Conforms restoring (self.resolveForwardEffect effect) := by
  have asks : ∀ request : OutsideCall Args, (∀ seen, restores (.outside request) seen) →
      Conforms restoring (onOutside request) :=
    fun request quiet => @conforms_perform (coordinatorFace Args) _ restoring _ quiet
  apply conforms_bind
  · apply conforms_ite
    · exact quiet_store
    · exact conforms_pure _
  · intro published
    apply conforms_ite
    · exact conforms_pure _
    · apply conforms_ite
      · exact conforms_bind (asks _ fun _ => trivial) fun _ => conforms_pure _
      · apply conforms_ite
        · exact conforms_bind (asks _ fun _ => trivial) fun _ => conforms_pure _
        · exact conforms_pure _

theorem quiet_resolve_compensation : Conforms restoring (self.resolveCompensation effect) := by
  apply conforms_ite
  · apply conforms_bind
    · exact @conforms_perform (coordinatorFace Args) _ restoring _ fun _ => trivial
    · exact fun _ => conforms_pure _
  · exact conforms_pure _

abbrev Restores {Value : Type} (action : Action Args Value) (seen : List (String × Option String)) :
    Prop :=
  wp restoring action (fun _ _ => True) (fun _ _ => True) seen

theorem restores_run_recovery_compensation (marked : (sagaId, some effect.stepId) ∈ seen) :
    Restores (runRecoveryCompensation sagaId effect) seen := by
  have fails : ∀ error after, Restores (do
      failRecoveryCompensation sagaId effect error
      pure false) after := by
    intro error after
    exact conforms_bind (quiet_fail_recovery_compensation error) (fun _ => conforms_pure _) after
  unfold runRecoveryCompensation Restores
  rw [wp_attempt, wp_bind]
  apply wp_noting marked
  · intro succeeded
    rw [wp_ite]
    split
    · apply wp_mono (conforms_bind quiet_store (fun _ => conforms_pure _) _)
      · exact fun _ _ _ => trivial
      · exact fun error after _ => fails _ after
    · apply wp_mono (fails _ _)
      · exact fun _ _ _ => trivial
      · exact fun error after _ => fails _ after
  · exact fun error => fails _ _

theorem restores_recover_compensation {alreadyMarked : Bool}
    (marked : alreadyMarked = true → (sagaId, some effect.stepId) ∈ seen) :
    Restores (recoverCompensation sagaId effect alreadyMarked) seen := by
  unfold recoverCompensation Restores
  rw [wp_ite]
  split
  · rename_i found
    exact restores_run_recovery_compensation (marked found)
  · rw [wp_bind]
    apply wp_noting trivial
    · intro claimed
      apply restores_run_recovery_compensation
      simp [restorable]
    · exact fun _ => trivial

theorem restores_undo_effect
    (marked : effect.state = .compensating → (sagaId, some effect.stepId) ∈ seen) :
    Restores (self.undoEffect sagaId effect) seen := by
  unfold undoEffect Restores
  split
  · rename_i compensating
    have grown := wp_grows (@quiet_resolve_compensation _ self effect seen)
    rw [wp_bind, wp_caught]
    apply wp_mono grown
    · intro resolution after ⟨_, more⟩
      cases resolution with
      | applied => exact conforms_bind quiet_store (fun _ => conforms_pure _) after
      | unknown =>
          exact conforms_bind (quiet_fail_recovery_compensation _) (fun _ => conforms_pure _) after
      | notApplied =>
          apply restores_recover_compensation
          exact fun _ => more (marked compensating)
    · intro error after _
      exact conforms_bind (quiet_fail_recovery_compensation _) (fun _ => conforms_pure _) after
  · exact restores_recover_compensation nofun
  · exact restores_recover_compensation nofun
  · trivial

theorem restores_settle_forward : Restores (self.settleForward sagaId effect) seen := by
  unfold settleForward Restores
  rw [wp_bind, wp_caught]
  apply wp_mono (quiet_resolve_forward_effect seen)
  · intro resolution after _
    cases resolution with
    | notApplied => exact conforms_bind quiet_store (fun _ => conforms_pure _) after
    | unknown => exact conforms_bind (quiet_mark_ambiguous _) (fun _ => conforms_pure _) after
    | applied =>
        dsimp only
        rw [wp_bind]
        apply wp_noting trivial
        · intro moved
          apply restores_undo_effect
          intro compensating
          simp [restorable, compensating]
        · exact fun _ => trivial
  · intro error after _
    exact conforms_bind (quiet_mark_ambiguous _) (fun _ => conforms_pure _) after

/-- One iteration, with one case for each way a record is handled. -/
theorem restores_recover_effect
    (marked : effect.state = .compensating → (sagaId, some effect.stepId) ∈ seen) :
    Restores (self.recoverEffect sagaId effect) seen := by
  unfold recoverEffect Restores
  split
  · trivial
  · trivial
  · exact conforms_bind (quiet_dead_letter _ _) (fun _ => conforms_pure _) seen
  · exact conforms_bind quiet_store (fun _ => conforms_pure _) seen
  · exact restores_settle_forward
  · exact restores_settle_forward
  · exact restores_undo_effect marked

theorem restores_recover_effects (effects : List (Effect Args))
    (marked : ∀ effect ∈ effects, effect.state = .compensating →
      (sagaId, some effect.stepId) ∈ seen) :
    Restores (self.recoverEffects sagaId effects) seen := by
  induction effects generalizing seen with
  | nil => trivial
  | cons effect earlier ih =>
      have here := marked effect (List.mem_cons_self ..)
      unfold recoverEffects Restores
      rw [wp_bind]
      apply wp_mono (wp_grows (restores_recover_effect here))
      · intro goOn after ⟨_, more⟩
        rw [wp_ite]
        split
        · apply ih
          intro other member compensating
          exact more (marked other (List.mem_cons_of_mem _ member) compensating)
        · trivial
      · exact fun _ _ _ => trivial

/-- The replay of the log: by induction on the compensations left. -/
theorem restores_replay_compensations (compensations : List (ActionPayload Args))
    (logged : compensations ≠ [] → (sagaId, none) ∈ seen) :
    Restores (replayCompensations sagaId compensations) seen := by
  induction compensations generalizing seen with
  | nil => trivial
  | cons compensation earlier ih =>
      have here := logged (List.cons_ne_nil _ _)
      unfold replayCompensations Restores
      rw [wp_bind, wp_caught]
      apply wp_noting here
      · intro succeeded
        cases succeeded with
        | true => exact ih fun _ => List.mem_append_left _ here
        | false => trivial
      · exact fun _ => trivial

theorem restores_recover_saga {saga : IncompleteSaga Args} (known : listed saga ⊆ seen) :
    Restores (self.recoverSaga saga) seen := by
  have marked : ∀ effect ∈ saga.effects.reverse, effect.state = .compensating →
      (saga.sagaId, some effect.stepId) ∈ seen := by
    intro effect member compensating
    apply known
    apply List.mem_append_left
    apply List.mem_map.mpr
    refine ⟨effect, List.mem_filter.mpr ⟨List.mem_reverse.mp member, ?_⟩, rfl⟩
    simp [compensating]
  have logged : saga.compensations.reverse ≠ [] → (saga.sagaId, none) ∈ seen := by
    intro filled
    apply known
    apply List.mem_append_right
    have some_logged : saga.compensations ≠ [] := by simpa using filled
    simp [some_logged]
  unfold recoverSaga Restores
  rw [wp_ite]
  split
  · apply conforms_bind
    · exact @conforms_perform (coordinatorFace Args) _ restoring _ fun _ => trivial
    · exact fun _ => conforms_pure _
  · rw [wp_ite]
    split
    · rw [wp_bind]
      apply wp_mono (restores_recover_effects _ marked)
      · intro settled after _
        exact conforms_ite (conforms_bind quiet_store fun _ => conforms_pure _) (conforms_pure _)
          after
      · exact fun _ _ _ => trivial
    · rw [wp_bind]
      apply wp_mono (restores_replay_compensations _ logged)
      · intro outcome after _
        cases outcome with
        | none => exact conforms_bind quiet_store (fun _ => conforms_pure _) after
        | some error =>
            exact conforms_bind quiet_store
              (fun _ => conforms_bind quiet_store fun _ => conforms_pure _) after
      · exact fun _ _ _ => trivial

theorem restores_recover_sagas (sagas : List (IncompleteSaga Args)) (count : Nat)
    (known : ∀ saga ∈ sagas, listed saga ⊆ seen) :
    Restores (self.recoverSagas sagas count) seen := by
  induction sagas generalizing count seen with
  | nil => trivial
  | cons saga rest ih =>
      have here := known saga (List.mem_cons_self ..)
      unfold recoverSagas Restores
      rw [wp_bind]
      apply wp_mono (wp_grows (restores_recover_saga here))
      · intro rolledBack after ⟨_, more⟩
        apply ih
        intro other member
        exact List.Subset.trans (known other (List.mem_cons_of_mem _ member)) more
      · exact fun _ _ _ => trivial

theorem restores_recover : Restores (self.recover : Action Args Nat) seen := by
  unfold recover Restores
  rw [wp_ite]
  split
  · rw [wp_bind]
    apply wp_noting trivial
    · intro incomplete
      apply restores_recover_sagas
      intro saga member entry known
      apply List.mem_append_right
      exact List.mem_flatMap.mpr ⟨saga, member, known⟩
    · exact fun _ => trivial
  · trivial

end Recovering

section Executing

variable {self : Coordinator} {sagaId : String} {step : SagaStep Args} {watch : Watch}

def Undeclared : Call Args → Prop
  | .store (.writeTransactionState _ .committed _) => False
  | _ => True

def Clean (watch : Watch) : Prop := watch = {}

def Fallen (watch : Watch) : Prop := watch.fell = true ∧ watch.closed = false

theorem fallen_allows {request : Call Args} (fallen : Fallen watch)
    (undeclared : Undeclared request) : watch.allowed request := by
  rcases request with request | request | request
  · trivial
  · cases request with
    | writeTransactionState owner status metadata =>
        cases status with
        | committed => exact undeclared.elim
        | compensating => exact fallen.2
        | _ => trivial
    | prepareEffect => exact .inl fallen.1
    | transitionEffect owner stepId expected newState =>
        cases newState with
        | compensating => exact fallen.1
        | _ => trivial
    | appendCompensation => exact fallen.1
    | _ => trivial
  · cases request with
    | executeCompensation => exact fallen.1
    | _ => trivial

theorem fallen_note {request : Call Args} {reply : Except PyError request.Answer}
    (fallen : Fallen watch) (undeclared : Undeclared request) :
    Fallen (watch.note request reply) := by
  rcases request with request | request | request
  · exact fallen
  · cases request with
    | writeTransactionState owner status metadata =>
        cases status with
        | committed => exact undeclared.elim
        | compensating => exact ⟨rfl, fallen.2⟩
        | _ => exact fallen
    | prepareEffect => cases reply <;> exact fallen
    | commitEffect => cases reply <;> exact fallen
    | _ => exact fallen
  · exact fallen

theorem Unwinds.undeclared {request : Call Args} (unwinds : Unwinds sagaId request) :
    Undeclared request := by
  rcases request with request | request | request
  · trivial
  · cases request with
    | writeTransactionState owner status metadata =>
        cases status with
        | committed => exact absurd rfl unwinds.2
        | _ => trivial
    | _ => trivial
  · trivial

theorem wp_fallen {Value : Type} {action : Action Args Value}
    (uses : Uses (Unwinds sagaId) action) (fallen : Fallen watch) :
    wp watched action (fun _ => Fallen) (fun _ => Fallen) watch := by
  have undeclared : Uses Undeclared action := uses_mono (fun _ => Unwinds.undeclared) uses
  apply wp_mono (wp_maintains _ _ (undeclared ()) fallen)
  · exact fun _ _ reached => reached.2
  · exact fun _ _ reached => reached.2
  · exact fun request state undeclared fallen => fallen_allows fallen undeclared
  · rintro request before reply after undeclared fallen rfl
    exact fallen_note fallen undeclared

theorem watched_memory {request : MemoryCall Args} {post : request.Answer → Watch → Prop}
    {failed : PyError → Watch → Prop} (answered : ∀ answer, post answer watch)
    (raised : ∀ error, failed error watch) :
    wp watched (onMemory request) post failed watch :=
  wp_noting trivial answered raised

/-- The steps of one execution. A failure on the way leaves the batch open. -/
theorem watched_execute_step [Inhabited Args] (journaled : self.store = .journaled) :
    wp watched (self.executeStep sagaId step)
      (fun committed after => committed.status = .committed ∧ Clean after)
      (fun _ after => after.closed = false) {} := by
  unfold executeStep markExecuting
  rw [wp_bind, if_pos (journals_of_journaled journaled), wp_bind, wp_flagged]
  apply wp_noting (.inr ⟨rfl, rfl⟩)
  · intro effect
    rw [wp_bind, wp_flagged]
    apply wp_noting trivial
    · intro moved
      rw [wp_pure, wp_bind, wp_flagged]
      apply wp_noting trivial
      · intro result
        rw [wp_ite]
        split
        · unfold commitStep markApplied
          rw [wp_bind, if_pos (journals_of_journaled journaled), wp_bind, wp_flagged]
          apply wp_noting trivial
          · intro applied
            rw [wp_pure, wp_bind, wp_flagged]
            apply watched_memory
            · intro _
              unfold publishStep
              rw [wp_bind, if_pos (journals_of_journaled journaled), wp_bind, wp_flagged]
              apply wp_noting trivial
              · intro published
                rw [wp_pure, wp_bind, wp_flagged, record_history_journaled journaled]
                apply wp_noting trivial
                · exact fun _ => ⟨rfl, rfl⟩
                · exact fun _ => rfl
              · exact fun _ => rfl
            · exact fun _ => rfl
          · exact fun _ => rfl
        · unfold abortStep
          rw [if_pos (journals_of_journaled journaled), wp_bind, wp_flagged]
          apply wp_noting trivial
          · exact fun _ => rfl
          · exact fun _ => rfl
      · exact fun _ => rfl
    · exact fun _ => rfl
  · exact fun _ => rfl

variable [DecidableEq Args] [Inhabited Args]

def watching (journaled : self.store = .journaled) :
    Outline (watched : Machine (coordinatorFace Args) Watch) self sagaId where
  falling := fun watch => watch.closed = false
  rolling := fun _ => Fallen
  undone := Fallen
  broken := Fallen
  queue := fun _ => True
  working := Clean
  finished := fun _ => True
  restatus := fun _ _ => trivial
  moves := fun _ => trivial
  falls := by
    rintro watch rfl
    rfl
  ends := fun _ => trivial
  rests := fun _ => trivial
  breaks := fun fallen => fallen.2
  leaves := fun _ => trivial
  enters := by
    intro watch unclosed
    rw [wp_bind, write_status_journaled journaled]
    apply wp_noting unclosed
    · intro _
      apply watched_memory
      · exact fun _ => ⟨rfl, unclosed⟩
      · exact fun _ => ⟨rfl, unclosed⟩
    · exact fun _ => ⟨rfl, unclosed⟩
  undoes := by
    intro step rest watch fallen
    apply wp_mono (wp_fallen (self.unwinds_undo_step step) fallen)
    · intro goOn after fallen
      cases goOn <;> exact fallen
    · exact fun _ _ fallen => fallen
  closes := by
    intro watch fallen
    exact wp_fallen self.unwinds_close_rollback fallen
  asks := by
    intro Value action watch uses working
    apply wp_mono (wp_maintains _ _ (uses ()) working)
    · exact fun _ _ reached => reached.2
    · exact fun _ _ reached => reached.2
    · intro request watch enquiry _
      rcases request with request | request | request
      · trivial
      · cases request with
        | stepAlreadyCommitted => trivial
        | _ => exact enquiry.elim
      · cases request with
        | executeCompensation => exact enquiry.elim
        | _ => trivial
    · rintro request before reply after enquiry working rfl
      rcases request with request | request | request
      · exact working
      · cases request with
        | stepAlreadyCommitted => exact working
        | _ => exact enquiry.elim
      · exact working
  executes := by
    rintro step rest watch _ _ rfl
    exact watched_execute_step journaled
  pauses := by
    rintro step rest watch _ _ _ rfl
    unfold pauseWith
    rw [wp_bind, write_status_journaled journaled]
    apply watched_memory
    · intro _
      rw [wp_bind]
      apply watched_memory
      · intro _
        apply wp_noting trivial
        · exact fun _ => trivial
        · exact fun _ => rfl
      · exact fun _ => rfl
    · exact fun _ => rfl
  commits := by
    rintro watch rfl
    unfold closeBatch
    rw [wp_bind, write_status_journaled journaled]
    apply watched_memory
    · intro _
      rw [wp_bind]
      apply wp_noting ⟨rfl, rfl⟩
      · intro _
        apply watched_memory
        · exact fun _ => trivial
        · exact fun _ => trivial
      · exact fun _ => trivial
    · exact fun _ => trivial
  quarantines := by
    intro step watch fallen
    apply wp_mono (wp_fallen (unwinds_quarantine_step step) fallen)
    · exact fun _ _ _ => trivial
    · exact fun _ _ fallen => fallen

theorem watched_execute_saga (journaled : self.store = .journaled) (steps : List (SagaStep Args)) :
    wp watched (self.executeSaga sagaId steps) (fun _ _ => True) (fun _ _ => True) {} := by
  unfold executeSaga
  rw [wp_bind]
  apply watched_memory
  · intro saga
    rw [wp_ite]
    split
    · apply (@watching Args self sagaId _ journaled).execute_steps [] steps
      · exact fun _ member => absurd member List.not_mem_nil
      · trivial
      · rfl
    · trivial
  · exact fun _ => trivial

end Executing

section Pools

/-- What is noted of a thread. -/
inductive Note where
  | executing (watch : Watch)
  | recovering (seen : List (String × Option String))

/-- The calls of `recover`. -/
def Sweeps (request : Call Args) : Prop :=
  request = .store .listIncomplete ∨ ∃ sagaId, RecoveryCall sagaId request

namespace Note

def note (request : Call Args) (reply : Except PyError request.Answer) : Note → Note
  | .executing watch => .executing (watch.note request reply)
  | .recovering seen => .recovering (seen ++ restorable request reply)

def allowed (sagaId : String) (request : Call Args) : Note → Prop
  | .executing watch =>
      watch.allowed request ∧ ConfinedTo sagaId request ∧ request.alongDiagram
  | .recovering seen => restores request seen ∧ Sweeps request

end Note

def restarts [DecidableEq Args] [Inhabited Args]
    (permits : Cluster Args → List Note → Note → Call Args → Prop) :
    Setting (coordinatorFace Args) PyError Unit Nat Note (Cluster Args) where
  admits := fun _ program => ∃ self : Coordinator,
    self.store = .journaled ∧ program = ApiCall.recover.program self
  serve := serveInCluster
  lose := fun _ _ _ => False
  start := .recovering []
  note := Note.note
  permits := permits

/-- The pool in which a batch is about to be executed, and no other call runs. -/
def launched [DecidableEq Args] [Inhabited Args] (self : Coordinator) (owner : Nat)
    (sagaId : String) (steps : List (SagaStep Args)) (cluster : Cluster Args) :
    Pool (coordinatorFace Args) PyError Unit Nat Note (Cluster Args) where
  shared := cluster
  threads := [⟨owner, (ApiCall.execute sagaId steps).program self, .executing {}⟩]
  trace := []

/-- A saga as `start_transaction_log` leaves it. -/
structure Fresh (sagaId : String) (store : Store Args) : Prop where
  running : store.status? sagaId = some .running
  journal : store.effects sagaId = .empty
  log : store.comps sagaId = []

def spares (sagaId : String) (cluster : Cluster Args) : Note → Call Args → Bool
  | .recovering _, .store (.transitionEffect owner stepId _ .compensating _ _) =>
      owner ≠ sagaId ∨
        (cluster.store.effect? sagaId stepId).all fun record => record.state ≠ .committed
  | _, _ => true

def compensates (sagaId : String) : Call Args → Bool
  | .outside (.executeCompensation owner _ _) => owner = sagaId
  | _ => false

theorem compensates_iff {sagaId : String} {request : Call Args} :
    compensates sagaId request = true ↔
      ∃ id compensation, request = .outside (.executeCompensation sagaId id compensation) := by
  constructor
  · intro here
    rcases request with request | request | request
    · cases here
    · cases here
    · cases request with
      | executeCompensation owner id compensation =>
          obtain rfl := of_decide_eq_true here
          exact ⟨id, compensation, rfl⟩
      | _ => cases here
  · rintro ⟨id, compensation, rfl⟩
    exact decide_eq_true rfl

/-- A saga that is durably committed is committed as a whole. -/
def Unsplit (sagaId : String)
    (pool : Pool (coordinatorFace Args) PyError Unit Nat Note (Cluster Args)) : Prop :=
  pool.shared.store.status? sagaId = some .committed →
    (∀ stepId record, pool.shared.store.effect? sagaId stepId = some record →
      record.state = .committed) ∧
    ∀ event ∈ pool.trace, compensates sagaId event.request = false

end Pools

section Invariant

def undoing : EffectState → Bool
  | .compensating | .compensated | .compensationFailed => true
  | _ => false

def Undoing (store : Store Args) (sagaId : String) (id : Option String) : Prop :=
  ∃ stepId record, id = some stepId ∧ store.effect? sagaId stepId = some record ∧
    undoing record.state = true

/-- Every record but the open one is committed. -/
def Orderly (store : Store Args) (sagaId : String) (opened : Option String) : Prop :=
  ∀ stepId record, store.effect? sagaId stepId = some record →
    record.state = .committed ∨ opened = some stepId

structure Whole (sagaId : String) (store : Store Args)
    (trace : List (Event (coordinatorFace Args))) (watch : Watch) (others : List Note) : Prop where
  durable : store.status? sagaId = some .committed → watch.closed = true
  settled : watch.closed = true → watch.fell = false ∧ watch.opened = none
  log : watch.fell = false → store.comps sagaId = []
  orderly : watch.fell = false → Orderly store sagaId watch.opened
  seen : watch.fell = false → ∀ seen, .recovering seen ∈ others → ∀ id, (sagaId, id) ∈ seen →
    Undoing store sagaId id
  undone : watch.fell = false → ∀ event ∈ trace, ∀ id compensation,
    event.request = .outside (.executeCompensation sagaId id compensation) →
      Undoing store sagaId id

variable {sagaId : String} {store : Store Args}

theorem edge_of_committed {state : EffectState} (along : edge .committed state = true) :
    state = .compensating := by
  cases state <;> first | rfl | cases along

theorem undoing_edge {old new : EffectState} (along : edge old new = true)
    (marked : undoing old = true) : undoing new = true := by
  cases old <;> cases new <;> simp_all [edge, undoing]

theorem undoing_moves {after : Store Args} {id : Option String}
    (moves : ∀ stepId, Moves (store.effect? sagaId stepId) (after.effect? sagaId stepId))
    (marked : Undoing store sagaId id) : Undoing after sagaId id := by
  obtain ⟨stepId, record, rfl, found, marked⟩ := marked
  have moved := moves stepId
  rw [found] at moved
  generalize arrived : after.effect? sagaId stepId = now at moved
  cases moved with
  | stay => exact ⟨stepId, record, rfl, arrived, marked⟩
  | move old state result error along =>
      exact ⟨stepId, _, rfl, arrived, undoing_edge along marked⟩

/-- A transition takes no committed record away, unless it claims one. -/
theorem orderly_transition {owner id : String} {expected : List EffectState}
    {newState : EffectState} {result : Option Args} {error : Option String}
    {opened : Option String} (orderly : Orderly store sagaId opened)
    (along : ∀ state ∈ expected, edge state newState = true)
    (spared : newState = .compensating → owner = sagaId → ∀ record,
      store.effect? sagaId id = some record → record.state ≠ .committed) :
    Orderly (store.transitionEffect owner id expected newState result error).2 sagaId opened := by
  rcases store.transition_effect_cases owner id expected newState result error with
    ⟨entry, found, legal, same⟩ | ⟨_, _, same⟩ <;> rw [same]
  · intro stepId record present
    rw [Store.effect_put_effect] at present
    split at present
    · rename_i both
      obtain ⟨rfl, rfl⟩ := both
      have key : entry.stepId = id := Table.find_key found
      subst key
      rcases orderly _ _ found with committed | here
      · have claims := edge_of_committed (committed ▸ along _ legal)
        exact absurd committed (spared claims rfl entry found)
      · exact .inr here
    · exact orderly stepId record present
  · exact orderly

variable [DecidableEq Args]

theorem orderly_prepare {id stepName : String} {action compensation : ActionPayload Args}
    {key : Option String} {watch : Watch} (idle : watch.opened = none)
    (orderly : Orderly store sagaId watch.opened) :
    let request : StoreCall Args := .prepareEffect sagaId id stepName action compensation key
    Orderly (request.serve store).2 sagaId
      (watch.note (.store request) (request.serve store).1).opened := by
  intro request
  rw [idle] at orderly
  rcases store.prepare_effect_cases sagaId id stepName action compensation key with
    ⟨existing, _, _, same⟩ | ⟨refusal, same⟩ | ⟨entry, _, shape, same⟩ <;>
    simp only [request, StoreCall.serve, same]
  · intro stepId record present
    refine (orderly stepId record present).imp_right ?_
    rintro ⟨⟩
  · change Orderly store sagaId watch.opened
    rw [idle]
    exact orderly
  · intro stepId record present
    rw [Store.effect_put_effect] at present
    split at present
    · rename_i both
      right
      simp [Watch.note, ← both.2, shape]
    · refine (orderly stepId record present).imp_right ?_
      rintro ⟨⟩

theorem orderly_commit {id : String} {key : Option String} {watch : Watch}
    (orderly : Orderly store sagaId watch.opened) :
    let request : StoreCall Args := .commitEffect sagaId id key
    Orderly (request.serve store).2 sagaId
      (watch.note (.store request) (request.serve store).1).opened := by
  intro request
  rcases store.commit_effect_cases sagaId id key with
    ⟨entry, found, applied, same⟩ | ⟨_, refusal, same⟩
  · simp only [request, StoreCall.serve, same]
    have own : watch.opened = some id := by
      rcases orderly _ _ found with committed | here
      · rw [applied] at committed
        cases committed
      · exact here
    have key : entry.stepId = id := Table.find_key found
    intro stepId record present
    left
    rw [Store.effect_publish, Store.effect_put_effect] at present
    split at present
    · cases present
      rfl
    · rename_i other
      rcases orderly stepId record present with committed | here
      · exact committed
      · rw [own] at here
        exact absurd ⟨rfl, key.trans (Option.some.inj here)⟩ other
  · simp only [request, StoreCall.serve, same]
    exact orderly

/-- What a reply lets a recovery compensate is on its way back in the journal. -/
theorem restorable_undoing {request : StoreCall Args} {id : Option String}
    (log : store.comps sagaId = [])
    (known : (sagaId, id) ∈ restorable (.store request) (request.serve store).1) :
    Undoing (request.serve store).2 sagaId id := by
  cases request with
  | listIncomplete =>
      obtain ⟨saga, member, entry⟩ := List.mem_flatMap.mp known
      obtain ⟨row, _, rfl⟩ := List.mem_map.mp member
      rcases List.mem_append.mp entry with marked | logged
      · obtain ⟨effect, kept, same⟩ := List.mem_map.mp marked
        obtain ⟨present, compensating⟩ := List.mem_filter.mp kept
        obtain ⟨owner, rfl⟩ := Prod.mk.inj same
        have state : effect.state = .compensating := by simpa using compensating
        dsimp only at owner present
        rw [owner] at present
        exact ⟨_, effect, rfl, Table.find_of_mem present, by rw [state]; rfl⟩
      · split at logged
        · cases logged
        · rename_i filled
          obtain ⟨owner, _⟩ := Prod.mk.inj (List.mem_singleton.mp logged)
          dsimp only at owner filled
          rw [← owner, log] at filled
          exact absurd rfl filled
  | transitionEffect owner stepId expected newState result error =>
      rcases store.transition_effect_cases owner stepId expected newState result error with
        ⟨entry, found, legal, same⟩ | ⟨_, refusal, same⟩ <;>
        simp only [StoreCall.serve, same, restorable, or_self] at known ⊢
      · split at known
        · rename_i claims
          obtain ⟨rfl, rfl⟩ := Prod.mk.inj (List.mem_singleton.mp known)
          subst claims
          refine ⟨entry.stepId, { entry with state := .compensating, result, error }, rfl, ?_, rfl⟩
          rw [Store.effect_put_effect, if_pos ⟨rfl, rfl⟩]
        · cases known
      · cases known
  | _ => cases known

end Invariant

section Steps

variable [DecidableEq Args] {sagaId : String} {before after : Cluster Args}
  {trace : List (Event (coordinatorFace Args))} {watch : Watch} {owner : Nat}
  {request : Call Args} {reply : Except PyError request.Answer}

omit [DecidableEq Args] in
theorem recovery_along {request : Call Args} (sweeps : Sweeps request) : request.alongDiagram := by
  rcases sweeps with rfl | ⟨sagaId, recovery⟩
  · trivial
  · rcases request with request | request | request
    · trivial
    · cases request with
      | transitionEffect => exact recovery.2.1
      | _ => trivial
    · trivial

omit [DecidableEq Args] in
theorem note_fell (standing : (watch.note request reply).fell = false) : watch.fell = false := by
  rcases request with request | request | request
  · exact standing
  · cases request with
    | writeTransactionState owner status metadata =>
        cases status with
        | compensating => cases standing
        | _ => exact standing
    | prepareEffect => cases reply <;> exact standing
    | commitEffect => cases reply <;> exact standing
    | _ => exact standing
  · exact standing

omit [DecidableEq Args] in
/-- The closing of a batch is for good, and nothing follows it. -/
theorem note_settled (here : watch.allowed request)
    (settled : watch.closed = true → watch.fell = false ∧ watch.opened = none)
    (closed : (watch.note request reply).closed = true) :
    (watch.note request reply).fell = false ∧ (watch.note request reply).opened = none := by
  rcases request with request | request | request
  · exact settled closed
  · cases request with
    | writeTransactionState owner status metadata =>
        cases status with
        | committed => exact here
        | compensating =>
            have unclosed : watch.closed = false := here
            rw [show (watch.note _ reply).closed = watch.closed from rfl, unclosed] at closed
            cases closed
        | _ => exact settled closed
    | prepareEffect =>
        have same : watch.closed = true := by cases reply <;> exact closed
        rcases here with fell | ⟨_, unclosed⟩
        · rw [(settled same).1] at fell
          cases fell
        · rw [unclosed] at same
          cases same
    | commitEffect =>
        cases reply with
        | error => exact settled closed
        | ok => exact ⟨(settled closed).1, rfl⟩
    | _ => exact settled closed
  · exact settled closed

omit [DecidableEq Args] in
theorem note_closed (closed : watch.closed = true) : (watch.note request reply).closed = true := by
  rcases request with request | request | request
  · exact closed
  · cases request with
    | writeTransactionState owner status metadata =>
        cases status with
        | committed => rfl
        | _ => exact closed
    | prepareEffect => cases reply <;> exact closed
    | commitEffect => cases reply <;> exact closed
    | _ => exact closed
  · exact closed

theorem log_call (unlogged : ∀ owner compensation,
      request ≠ .store (.appendCompensation owner compensation))
    (served : serveInCluster owner request before reply after) :
    after.store.comps = before.store.comps := by
  rcases request with request | request | request
  · obtain ⟨-, rfl⟩ := served
    rfl
  · obtain ⟨-, rfl⟩ := served
    apply log_kept
    rintro owner compensation rfl
    exact unlogged owner compensation rfl
  · obtain rfl := served
    rfl

/-- The journal of a batch that has not fallen, after a call of its execution. -/
theorem orderly_call (here : watch.allowed request) (own : ConfinedTo sagaId request)
    (along : request.alongDiagram) (standing : watch.fell = false)
    (orderly : Orderly before.store sagaId watch.opened)
    (served : serveInCluster owner request before reply after) :
    Orderly after.store sagaId (watch.note request reply).opened := by
  rcases request with request | request | request
  · obtain ⟨-, rfl⟩ := served
    exact orderly
  · obtain ⟨rfl, rfl⟩ := served
    cases request with
    | prepareEffect owner stepId stepName action compensation key =>
        obtain rfl := own.2 owner rfl
        have idle : watch.opened = none := by
          rcases here with fell | ⟨idle, _⟩
          · rw [standing] at fell
            cases fell
          · exact idle
        exact orderly_prepare idle orderly
    | transitionEffect owner stepId expected newState result error =>
        apply orderly_transition orderly along
        rintro rfl
        have fell : watch.fell = true := here
        rw [standing] at fell
        cases fell
    | commitEffect owner stepId key =>
        obtain rfl := own.2 owner rfl
        exact orderly_commit orderly
    | writeTransactionState owner status metadata => cases status <;> exact orderly
    | _ => exact orderly
  · obtain rfl := served
    exact orderly

theorem status_call (sagaId : String) (served : serveInCluster owner request before reply after) :
    after.store.status? sagaId = before.store.status? sagaId ∨
      ∃ status metadata, request = .store (.writeTransactionState sagaId status metadata) ∧
        after.store.status? sagaId = some status := by
  rcases request with request | request | request
  · obtain ⟨-, rfl⟩ := served
    exact .inl rfl
  · obtain ⟨-, rfl⟩ := served
    by_cases writes : ∃ owner status metadata, request = .writeTransactionState owner status metadata
    · obtain ⟨owner, status, metadata, rfl⟩ := writes
      simp only [StoreCall.serve]
      rw [Store.status_write_state]
      by_cases same : owner = sagaId
      · subst same
        exact .inr ⟨status, metadata, rfl, if_pos rfl⟩
      · exact .inl (if_neg same)
    · left
      unfold Store.status?
      rw [rows_kept]
      exact fun owner status metadata same => writes ⟨owner, status, metadata, same⟩
  · obtain rfl := served
    exact .inl rfl

theorem whole_executing {others : List Note} (whole : Whole sagaId before.store trace watch others)
    (here : watch.allowed request) (own : ConfinedTo sagaId request)
    (along : request.alongDiagram) (served : serveInCluster owner request before reply after) :
    Whole sagaId after.store (trace ++ [⟨request, reply⟩]) (watch.note request reply) others := by
  have moves := journal_moves along served sagaId
  constructor
  · intro committed
    rcases status_call sagaId served with same | ⟨status, metadata, rfl, wrote⟩
    · have closed := whole.durable (same ▸ committed)
      exact note_closed closed
    · rw [wrote] at committed
      cases committed
      rfl
  · exact note_settled here whole.settled
  · intro standing
    have stood := note_fell standing
    rw [log_call _ served]
    · exact whole.log stood
    · rintro owner compensation rfl
      have fell : watch.fell = true := here
      rw [stood] at fell
      cases fell
  · intro standing
    have stood := note_fell standing
    exact orderly_call here own along stood (whole.orderly stood) served
  · intro standing seen member id known
    have stood := note_fell standing
    exact undoing_moves moves (whole.seen stood seen member id known)
  · intro standing event member id compensation same
    have stood := note_fell standing
    rcases List.mem_append.mp member with earlier | last
    · exact undoing_moves moves (whole.undone stood event earlier id compensation same)
    · obtain rfl := List.mem_singleton.mp last
      dsimp only at same
      subst same
      have fell : watch.fell = true := here
      rw [stood] at fell
      cases fell

theorem whole_recovering {left right : List Note} {seen : List (String × Option String)}
    (whole : Whole sagaId before.store trace watch (left ++ .recovering seen :: right))
    (here : restores request seen) (sweeps : Sweeps request)
    (spared : spares sagaId before (.recovering seen) request = true)
    (served : serveInCluster owner request before reply after) :
    Whole sagaId after.store (trace ++ [⟨request, reply⟩]) watch
      (left ++ .recovering (seen ++ restorable request reply) :: right) := by
  have along := recovery_along sweeps
  have moves := journal_moves along served sagaId
  constructor
  · intro committed
    rcases status_call sagaId served with same | ⟨status, metadata, rfl, wrote⟩
    · exact whole.durable (same ▸ committed)
    · rw [wrote] at committed
      obtain rfl := Option.some.inj committed
      rcases sweeps with impossible | ⟨_, recovery⟩
      · cases impossible
      · exact absurd rfl recovery.2
  · exact whole.settled
  · intro standing
    rw [log_call _ served]
    · exact whole.log standing
    · rintro owner compensation rfl
      rcases sweeps with impossible | ⟨_, recovery⟩
      · cases impossible
      · exact recovery.elim
  · intro standing
    have orderly := whole.orderly standing
    rcases request with request | request | request
    · obtain ⟨-, rfl⟩ := served
      exact orderly
    · obtain ⟨rfl, rfl⟩ := served
      cases request with
      | transitionEffect owner stepId expected newState result error =>
          apply orderly_transition orderly along
          rintro rfl rfl record found
          simpa [spares, found] using spared
      | listIncomplete | stepAlreadyCommitted | pushDeadLetter | writeTransactionState =>
          exact orderly
      | _ =>
          rcases sweeps with impossible | ⟨_, recovery⟩
          · cases impossible
          · exact recovery.elim
    · obtain rfl := served
      exact orderly
  · intro standing known member id found
    have earlier : ∀ known, .recovering known ∈ left ++ .recovering seen :: right →
        (sagaId, id) ∈ known → Undoing after.store sagaId id :=
      fun known member found => undoing_moves moves (whole.seen standing known member id found)
    rcases List.mem_append.mp member with before | rest
    · exact earlier known (List.mem_append_left _ before) found
    · rcases List.mem_cons.mp rest with same | later
      · cases same
        rcases List.mem_append.mp found with old | fresh
        · exact earlier seen List.mem_append_cons_self old
        · rcases request with request | request | request
          · cases fresh
          · obtain ⟨rfl, rfl⟩ := served
            exact restorable_undoing (whole.log standing) fresh
          · cases fresh
      · exact earlier known (List.mem_append_right _ (List.mem_cons_of_mem _ later)) found
  · intro standing event member id compensation same
    rcases List.mem_append.mp member with earlier | last
    · exact undoing_moves moves (whole.undone standing event earlier id compensation same)
    · obtain rfl := List.mem_singleton.mp last
      dsimp only at same
      subst same
      apply undoing_moves moves
      exact whole.seen standing seen List.mem_append_cons_self id here

end Steps

section Runs

variable [DecidableEq Args] [Inhabited Args] {self : Coordinator} {sagaId : String}
  {permits : Cluster Args → List Note → Note → Call Args → Prop}

omit [DecidableEq Args] [Inhabited Args] in
theorem recover_sweeps : Uses Sweeps (self.recover : Action Args Nat) := by
  apply conforms_ite
  · apply conforms_bind
    · exact @conforms_perform (coordinatorFace Args) _ _ _ fun _ => .inl rfl
    · intro incomplete
      exact uses_mono (fun _ recovery => .inr recovery) (self.recovery_recover_sagas incomplete 0)
  · exact conforms_pure _

theorem recovery_obeys (owner : Nat) (program : Action Args Unit)
    (admitted : (restarts permits).admits owner program) :
    (restarts permits).Obeys (Note.allowed sagaId) program (.recovering []) := by
  obtain ⟨self, _, rfl⟩ := admitted
  have runs : wp restoring (ApiCall.recover.program self : Action Args Unit) (fun _ _ => True)
      (fun _ _ => True) [] := by
    unfold ApiCall.program
    rw [wp_void]
    exact restores_recover
  have uses : Uses Sweeps (ApiCall.recover.program self : Action Args Unit) :=
    conforms_bind recover_sweeps fun _ => conforms_pure _
  apply wp_embedded _ _ (wp_uses uses runs)
  · exact fun request seen here => here
  · exact fun request seen reply after taken => ⟨seen ++ restorable request reply, rfl, taken⟩

theorem execution_obeys (journaled : self.store = .journaled) (steps : List (SagaStep Args)) :
    (restarts permits).Obeys (Note.allowed sagaId) ((ApiCall.execute sagaId steps).program self)
      (.executing {}) := by
  have runs : wp watched ((ApiCall.execute sagaId steps).program self) (fun _ _ => True)
      (fun _ _ => True) {} := by
    unfold ApiCall.program
    rw [wp_void]
    exact watched_execute_saga journaled steps
  have confined : Uses (ConfinedTo sagaId) ((ApiCall.execute sagaId steps).program self) :=
    (ApiCall.execute sagaId steps).confined_program self rfl
  have along := (ApiCall.execute sagaId steps).along_program journaled
  have both := wp_uses along (wp_uses confined runs)
  apply wp_embedded _ _ both
  · exact fun request watch here => ⟨here.1.1, here.1.2, here.2⟩
  · exact fun request watch reply after taken => ⟨watch.note request reply, rfl, taken⟩

def Together (sagaId : String) (shared : Cluster Args) (trace : List (Event (coordinatorFace Args)))
    (notes : List Note) : Prop :=
  ∃ watch others, notes = .executing watch :: others ∧
    (∀ note ∈ others, ∃ seen, note = .recovering seen) ∧
    Whole sagaId shared.store trace watch others

theorem restarts_keep :
    (restarts fun (shared : Cluster Args) _ noted request =>
      spares sagaId shared noted request = true).Invariant (Note.allowed sagaId)
      (Together sagaId) := by
  constructor
  · intro shared trace notes ⟨watch, others, shape, recovering, whole⟩
    refine ⟨watch, others ++ [.recovering []], by rw [shape]; rfl, ?_, ?_⟩
    · exact List.forall_mem_append.mpr ⟨recovering, List.forall_mem_singleton.mpr ⟨[], rfl⟩⟩
    · refine { whole with seen := ?_ }
      intro standing seen member id known
      rcases List.mem_append.mp member with earlier | fresh
      · exact whole.seen standing seen earlier id known
      · cases List.mem_singleton.mp fresh
        cases known
  · intro shared after trace left right noted owner request reply together here spared served
    obtain ⟨watch, others, shape, recovering, whole⟩ := together
    cases left with
    | nil =>
        obtain ⟨rfl, rfl⟩ := List.cons.inj shape
        exact ⟨_, right, rfl, recovering, whole_executing whole here.1 here.2.1 here.2.2 served⟩
    | cons first left =>
        obtain ⟨rfl, rfl⟩ := List.cons.inj shape
        obtain ⟨seen, rfl⟩ :=
          recovering noted List.mem_append_cons_self
        refine ⟨watch, _, rfl, ?_, whole_recovering whole here.1 here.2 spared served⟩
        exact Setting.every_replaced recovering ⟨_, rfl⟩
  · exact fun together subset lost => lost.elim

/-- As long as no recovery claims a committed record of the saga, a saga that
is durably committed is committed as a whole. -/
theorem live_saga_is_not_split {cluster : Cluster Args} (fresh : Fresh sagaId cluster.store)
    (journaled : self.store = .journaled) {owner : Nat} {steps : List (SagaStep Args)}
    {pool : Pool (coordinatorFace Args) PyError Unit Nat Note (Cluster Args)}
    (run : Relation.ReflTransGen (restarts fun shared _ noted request =>
      spares sagaId shared noted request = true).Step
      (launched self owner sagaId steps cluster) pool) : Unsplit sagaId pool := by
  have start : Whole sagaId cluster.store [] {} [] := by
    constructor
    · intro committed
      rw [fresh.running] at committed
      cases committed
    · exact nofun
    · exact fun _ => fresh.log
    · intro _ stepId record found
      rw [Store.effect?, fresh.journal] at found
      cases found
    · exact fun _ _ member => absurd member List.not_mem_nil
    · exact fun _ _ member => absurd member List.not_mem_nil
  have obeys : ∀ thread ∈ (launched self owner sagaId steps cluster).threads,
      (restarts fun shared _ noted request => spares sagaId shared noted request = true).Obeys
        (Note.allowed sagaId) thread.program thread.noted := by
    intro thread member
    obtain rfl := List.mem_singleton.mp member
    exact execution_obeys journaled steps
  have together : Together sagaId cluster [] [.executing {}] :=
    ⟨{}, [], rfl, fun _ member => absurd member List.not_mem_nil, start⟩
  have sound := Setting.run_sound restarts_keep recovery_obeys ⟨obeys, together⟩ run
  obtain ⟨watch, others, _, _, whole⟩ := sound.holds
  intro committed
  obtain ⟨standing, idle⟩ := whole.settled (whole.durable committed)
  have orderly := whole.orderly standing
  constructor
  · intro stepId record found
    rcases orderly stepId record found with done | here
    · exact done
    · rw [idle] at here
      cases here
  · intro event member
    by_contra compensated
    obtain ⟨id, compensation, same⟩ := compensates_iff.mp (eq_true_of_ne_false compensated)
    obtain ⟨stepId, record, _, found, marked⟩ :=
      whole.undone standing event member id compensation same
    rcases orderly stepId record found with done | here
    · rw [done] at marked
      cases marked
    · rw [idle] at here
      cases here

end Runs

section Samples

/-- One coordinator has just started saga `s`, the others hold nothing. -/
def startedCluster : Cluster Unit where
  store := Store.empty.writeTransactionState "s" .running { goal := some "", tenantId := some "" }
  memories := fun owner => if owner = 0 then sampleMemory else .empty

theorem started_fresh : Fresh "s" startedCluster.store := ⟨by decide, rfl, rfl⟩

/-- Steps `a` and `b` are executed, another coordinator starts, and the two
threads run in this order as far as the check lets them. -/
def restarted (permits : Cluster Unit → List Note → Note → Call Unit → Prop)
    (check : Cluster Unit → List Note → Note → Call Unit → Bool) (order : List Nat) :
    Pool (coordinatorFace Unit) PyError Unit Nat Note (Cluster Unit) :=
  let first := launched sampleWorker 0 "s" [sampleStep "a" none, sampleStep "b" none]
    startedCluster
  order.foldl (runThread (restarts permits) (answerInCluster accepting) check)
    { first with threads :=
        first.threads ++ [⟨1, ApiCall.recover.program sampleWorker, .recovering []⟩] }

theorem restarted_run {permits : Cluster Unit → List Note → Note → Call Unit → Prop}
    {check : Cluster Unit → List Note → Note → Call Unit → Bool}
    (sound : ∀ shared others noted request, check shared others noted request = true →
      permits shared others noted request) (order : List Nat) :
    Relation.ReflTransGen (restarts permits).Step
      (launched sampleWorker 0 "s" [sampleStep "a" none, sampleStep "b" none] startedCluster)
      (restarted permits check order) := by
  have admitted : (restarts permits).admits 1 (ApiCall.recover.program sampleWorker) :=
    ⟨sampleWorker, rfl, rfl⟩
  apply Relation.ReflTransGen.head (Setting.Step.spawn admitted)
  exact run_threads_run (answer_in_cluster_honest accepting) sound _ order

def restartedEarly : Pool (coordinatorFace Unit) PyError Unit Nat Note (Cluster Unit) :=
  restarted (fun shared _ noted request => spares "s" shared noted request = true)
    (fun shared _ noted request => spares "s" shared noted request)
    (List.replicate 2 1 ++ List.replicate 22 0)

theorem restarted_early_unsplit :
    restartedEarly.shared.store.status? "s" = some .committed ∧ Unsplit "s" restartedEarly :=
  ⟨by decide, live_saga_is_not_split started_fresh rfl (restarted_run (fun _ _ _ _ here => here) _)⟩

/-- The other coordinator recovers once step `a` is committed. -/
def restartedAmid : Pool (coordinatorFace Unit) PyError Unit Nat Note (Cluster Unit) :=
  restarted (fun _ _ _ _ => True) (fun _ _ _ _ => true)
    (List.replicate 10 0 ++ List.replicate 5 1 ++ List.replicate 12 0)

/-- Nothing tells a recovery that a listed saga is alive. -/
theorem restart_splits_live_saga :
    ¬∀ (cluster : Cluster Unit) (steps : List (SagaStep Unit))
      (pool : Pool (coordinatorFace Unit) PyError Unit Nat Note (Cluster Unit)),
      Fresh "s" cluster.store →
      Relation.ReflTransGen (restarts fun _ _ _ _ => True).Step
        (launched sampleWorker 0 "s" steps cluster) pool →
      (∀ thread ∈ pool.threads, thread.program.next? = none) → Unsplit "s" pool := by
  intro claim
  have returned : ∀ thread ∈ restartedAmid.threads, thread.program.next? = none := by
    have finished : restartedAmid.threads.all (fun thread => thread.program.next?.isNone) = true := by
      decide
    intro thread member
    exact Option.isNone_iff_eq_none.mp (List.all_eq_true.mp finished thread member)
  have whole := claim startedCluster _ restartedAmid started_fresh
    (restarted_run (fun _ _ _ _ _ => trivial) _) returned
  have committed : restartedAmid.shared.store.status? "s" = some .committed := by decide
  have undone : restartedAmid.trace.any (fun event => compensates "s" event.request) = true := by
    decide
  obtain ⟨event, member, compensated⟩ := List.any_eq_true.mp undone
  rw [(whole committed).2 event member] at compensated
  cases compensated

end Samples

end SagaMind.LiveRecovery
