import SagaMind.Coordinator.Outline

/-!
# What is recorded of an execution

A ledger keeps every execution of a sandbox with the world that it found, its
reply and the world that it left, and the dead letters that are pushed. An
execution that raises is the last one of its batch. The rollback leaves its
record started, so the record becomes ambiguous, and a dead letter names the
step.
-/

namespace SagaMind.Attempts

open CallProgram KeyedTable Coordinator

set_option autoImplicit false

variable {Args W Value : Type}

structure Attempt (Args W : Type) where
  step : SagaStep Args
  found : W
  reply : Except PyError (ExecuteResult Args)
  left : W

def Attempt.Raised (attempt : Attempt Args W) : Prop := ∃ error, attempt.reply = .error error

structure Ledger (Args W : Type) where
  world : W
  /-- Newest first. -/
  attempts : List (Attempt Args W) := []
  /-- The saga and the step that a dead letter names, newest first. -/
  letters : List (String × String) := []

structure Toolbox (Args W : Type) where
  validates : ActionPayload Args → Except PyError Unit → Prop
  executes : ActionPayload Args → W → Except PyError (ExecuteResult Args) → W → Prop
  compensates : ActionPayload Args → W → Except PyError Bool → W → Prop

def ledger (toolbox : Toolbox Args W) : Outside Args (Ledger Args W) where
  respond
    | .verify .., before, _, after => after = before
    | .validate action, before, reply, after => toolbox.validates action reply ∧ after = before
    | .execute _ step, before, reply, after => ∃ left,
        toolbox.executes step.action before.world reply left ∧
          after = { before with
            world := left
            attempts := ⟨step, before.world, reply, left⟩ :: before.attempts }
    | .executeCompensation _ _ compensation, before, reply, after => ∃ left,
        toolbox.compensates compensation before.world reply left ∧
          after = { before with world := left }
    | _, before, _, after => after = before
  observe
    | .pushDeadLetter sagaId stepName _, _, before =>
        { before with letters := (sagaId, stepName) :: before.letters }
    | _, _, before => before

abbrev recording [DecidableEq Args] (toolbox : Toolbox Args W) :
    Machine (coordinatorFace Args) (System Args (Ledger Args W)) :=
  machine (ledger toolbox) fun _ => True

def Idle : Call Args → Prop
  | .outside (.execute ..) => False
  | _ => True

/-- Idle calls that leave the started records started. -/
def Spares : Call Args → Prop
  | .store (.prepareEffect ..) => False
  | .store (.transitionEffect _ _ expected _ _ _) => .executing ∉ expected
  | .store (.commitEffect ..) => False
  | request => Idle request

section Uses

variable {sagaId : String}

theorem Spares.idle {request : Call Args} (spares : Spares request) : Idle request := by
  rcases request with request | request | request
  · trivial
  · trivial
  · exact spares

theorem clerical_idle {request : Call Args} (clerical : Clerical sagaId request) :
    Idle request := by
  rcases request with request | request | request
  · trivial
  · trivial
  · cases request with
    | execute => exact clerical.elim
    | _ => trivial

theorem enquiry_idle {request : Call Args} (enquiry : Enquiry request) : Idle request :=
  @clerical_idle _ "" _ enquiry.clerical

theorem unwinds_idle {request : Call Args} (unwinds : Unwinds sagaId request) : Idle request := by
  rcases request with request | request | request
  · trivial
  · trivial
  · exact clerical_idle unwinds

theorem spares_memory (request : MemoryCall Args) : Uses Spares (onMemory request) :=
  @conforms_perform (coordinatorFace Args) _ _ _ fun _ => trivial

theorem spares_undoes : Undoes (@Spares Args) sagaId where
  reads := fun _ => trivial
  claims := by
    intro stepId
    change EffectState.executing ∉ [.applied, .committed]
    decide
  closes := by
    intro stepId newState error
    change EffectState.executing ∉ [.compensating]
    decide
  compensates := fun _ _ => trivial
  remembers := fun _ => trivial
  writes := fun _ _ _ => trivial
  reports := fun _ _ => trivial

theorem spares_execute_compensations (self : Coordinator) :
    Uses Spares (self.executeCompensations sagaId (completedSteps sagaId) : Action Args Unit) :=
  self.uses_execute_compensations spares_undoes (spares_memory _)

theorem idle_memory (request : MemoryCall Args) : Uses Idle (onMemory request) :=
  @conforms_perform (coordinatorFace Args) _ _ _ fun _ => trivial

theorem idle_write_status (self : Coordinator) (status : SagaStatus)
    (metadata : Metadata Args) : Uses Idle (self.writeStatus sagaId status metadata) := by
  apply conforms_ite
  · exact @conforms_perform (coordinatorFace Args) _ _ _ fun _ => trivial
  · exact conforms_pure _

theorem idle_await_approval [DecidableEq Args] (self : Coordinator)
    (steps : List (SagaStep Args)) (step : SagaStep Args) :
    Uses Idle (self.awaitApproval sagaId steps step) := by
  apply conforms_bind (idle_memory _)
  intro _
  apply conforms_bind (idle_memory _)
  exact fun _ => idle_write_status self _ _

end Uses

section Keeping

variable [DecidableEq Args] {toolbox : Toolbox Args W} {before after : System Args (Ledger Args W)}

theorem idle_attempts {request : Call Args} {reply : Except PyError request.Answer}
    (idle : Idle request) (taken : serveCall (ledger toolbox) request before reply after) :
    after.world.attempts = before.world.attempts := by
  rcases request with request | request | request
  · rw [taken.2]
  · rw [taken.2]
    cases request <;> rfl
  · obtain ⟨world, response, same⟩ := taken
    rw [same]
    cases request with
    | execute => exact idle.elim
    | validate =>
        rw [response.2]
    | executeCompensation =>
        obtain ⟨left, _, noted⟩ := response
        rw [noted]
    | _ =>
        have unchanged : world = before.world := response
        rw [unchanged]

theorem spares_started {request : Call Args} {reply : Except PyError request.Answer}
    {sagaId stepId : String} {record : Effect Args} (spares : Spares request)
    (taken : serveCall (ledger toolbox) request before reply after)
    (found : before.store.effect? sagaId stepId = some record)
    (executing : record.state = .executing) :
    after.store.effect? sagaId stepId = some record := by
  rcases request with request | request | request
  · rw [taken.2]
    exact found
  · rw [taken.2]
    cases request with
    | prepareEffect => exact spares.elim
    | commitEffect => exact spares.elim
    | transitionEffect owner other expected newState result error =>
        simp only [afterStore, StoreCall.serve]
        rcases before.store.transition_effect_cases owner other expected newState result error with
          ⟨entry, present, legal, same⟩ | ⟨_, refusal, same⟩
        · have own : entry.stepId = other := Table.find_key present
          rw [same, Store.effect_put_effect, if_neg]
          · exact found
          · intro overlap
            have equal : entry.stepId = stepId := overlap.2
            rw [← overlap.1, ← own, equal, found] at present
            rw [← Option.some.inj present, executing] at legal
            exact spares legal
        · rw [same]
          exact found
    | _ => exact found
  · obtain ⟨world, _, same⟩ := taken
    rw [same]
    exact found

end Keeping

structure Attempt.Honest (toolbox : Toolbox Args W) (planned : ActionPayload Args → Prop)
    (attempt : Attempt Args W) : Prop where
  planned : planned attempt.step.action
  answered : toolbox.executes attempt.step.action attempt.found attempt.reply attempt.left

def Quiet (toolbox : Toolbox Args W) (planned : ActionPayload Args → Prop)
    (state : System Args (Ledger Args W)) : Prop :=
  ∀ attempt ∈ state.world.attempts, attempt.Honest toolbox planned ∧ ¬attempt.Raised

/-- The journal has a record of the step that is started. -/
def Started (sagaId : String) (step : SagaStep Args) (store : Store Args) : Prop :=
  ∃ record, store.effect? sagaId step.stepId = some record ∧ record.state = .executing ∧
    record.stepName = step.stepName

structure Broken (toolbox : Toolbox Args W) (planned : ActionPayload Args → Prop)
    (sagaId : String) (step : SagaStep Args) (state : System Args (Ledger Args W)) : Prop where
  last : ∃ attempt earlier, state.world.attempts = attempt :: earlier ∧ attempt.step = step ∧
    attempt.Honest toolbox planned ∧
    ∀ other ∈ earlier, other.Honest toolbox planned ∧ ¬other.Raised
  started : Started sagaId step state.store

structure Ambiguous (sagaId : String) (attempt : Attempt Args W)
    (state : System Args (Ledger Args W)) : Prop where
  record : ∃ record, state.store.effect? sagaId attempt.step.stepId = some record ∧
    record.state = .ambiguous
  letter : (sagaId, attempt.step.stepName) ∈ state.world.letters

def Recorded (toolbox : Toolbox Args W) (planned : ActionPayload Args → Prop) (sagaId : String)
    (state : System Args (Ledger Args W)) : Prop :=
  ∀ attempt ∈ state.world.attempts, attempt.Honest toolbox planned ∧
    (attempt.Raised → Ambiguous sagaId attempt state)

section Runs

variable [DecidableEq Args] {toolbox : Toolbox Args W} {planned : ActionPayload Args → Prop}
  {self : Coordinator} {sagaId : String} {step : SagaStep Args}
  {state : System Args (Ledger Args W)}

omit [DecidableEq Args] in
theorem Quiet.recorded (quiet : Quiet toolbox planned state) :
    Recorded toolbox planned sagaId state := by
  intro attempt member
  exact ⟨(quiet attempt member).1, fun raised => absurd raised (quiet attempt member).2⟩

theorem quiet_idle {Err : Type} {program : Program (coordinatorFace Args) Err Value}
    (uses : Uses Idle program) (quiet : Quiet toolbox planned state) :
    wp (recording toolbox) program (fun _ => Quiet toolbox planned)
      (fun _ => Quiet toolbox planned) state := by
  have kept : ∀ (request : Call Args) before reply after, Idle request →
      Quiet toolbox planned before → (recording toolbox).step request before reply after →
      Quiet toolbox planned after := by
    intro request before reply after idle quiet taken
    unfold Quiet
    rw [idle_attempts idle taken]
    exact quiet
  apply wp_mono (wp_maintains (fun _ _ _ _ => trivial) kept (uses ()) quiet)
  · exact fun _ _ reached => reached.2
  · exact fun _ _ reached => reached.2

theorem broken_spares {Err : Type} {program : Program (coordinatorFace Args) Err Value}
    {good : Value → Prop} {bad : Err → Prop}
    (uses : wp (havoc Spares) program (fun value _ => good value) (fun error _ => bad error) ())
    (broken : Broken toolbox planned sagaId step state) :
    wp (recording toolbox) program
      (fun value after => good value ∧ Broken toolbox planned sagaId step after)
      (fun error after => bad error ∧ Broken toolbox planned sagaId step after) state := by
  have kept : ∀ (request : Call Args) before reply after, Spares request →
      Broken toolbox planned sagaId step before →
      (recording toolbox).step request before reply after →
      Broken toolbox planned sagaId step after := by
    intro request before reply after spares broken taken
    obtain ⟨record, found, executing, named⟩ := broken.started
    constructor
    · rw [idle_attempts spares.idle taken]
      exact broken.last
    · exact ⟨record, spares_started spares taken found executing, executing, named⟩
  exact wp_maintains (fun _ _ _ _ => trivial) kept uses broken

theorem broken_handle_failure {other : SagaStep Args} {error : String}
    (broken : Broken toolbox planned sagaId step state) :
    wp (recording toolbox) (self.handleCompensationFailure sagaId other error)
      (fun _ => Broken toolbox planned sagaId step) (fun _ _ => False) state := by
  unfold handleCompensationFailure
  rw [wp_bind]
  apply wp_memory trivial
  rw [wp_ite]
  split
  · rw [wp_bind]
    apply wp_write_state trivial
    rw [wp_bind]
    apply wp_mono
    · apply broken_spares (self.swallows_failure spares_undoes.toFilesUndoing _ _)
      exact ⟨broken.last, broken.started⟩
    · intro _ after reached
      apply wp_push_dead_letter trivial
      exact ⟨reached.2.last, reached.2.started⟩
    · exact fun _ _ reached => reached.1
  · exact ⟨broken.last, broken.started⟩

def retreating (toolbox : Toolbox Args W) (planned : ActionPayload Args → Prop)
    (worker : Coordinator) (sagaId : String) (step : SagaStep Args) :
    Retreat (recording toolbox) worker sagaId where
  falling := Broken toolbox planned sagaId step
  rolling := fun _ => Broken toolbox planned sagaId step
  undone := Broken toolbox planned sagaId step
  enters := by
    intro state broken
    rw [wp_bind, writeStatus, wp_ite]
    split
    · apply wp_write_state trivial
      apply wp_memory trivial
      exact ⟨broken.last, broken.started⟩
    · apply wp_memory trivial
      exact ⟨broken.last, broken.started⟩
  undoes := by
    intro other rest state broken
    have stops : ∀ {error : String} {between : System Args (Ledger Args W)},
        Broken toolbox planned sagaId step between → wp (recording toolbox) (do
          worker.handleCompensationFailure sagaId other error
          pure false) (fun _ => Broken toolbox planned sagaId step) (fun _ _ => False) between := by
      intro error between broken
      rw [wp_bind]
      exact broken_handle_failure broken
    unfold undoStep
    rw [wp_attempt]
    apply wp_mono (broken_spares (worker.uses_compensate_step spares_undoes other ()) broken)
    · intro goOn after reached
      cases goOn <;> exact reached.2
    · intro error after reached
      apply wp_mono (stops reached.2)
      · intro goOn last broken
        cases goOn <;> exact broken
      · exact fun _ _ impossible => impossible
  closes := by
    intro state broken
    unfold closeRollback
    rw [wp_bind]
    apply wp_memory trivial
    rw [writeStatus, wp_ite]
    split
    · apply wp_write_state trivial
      exact ⟨broken.last, broken.started⟩
    · exact ⟨broken.last, broken.started⟩

/-- The started record becomes ambiguous, and its step gets a dead letter. -/
theorem broken_quarantined (broken : Broken toolbox planned sagaId step state) :
    wp (recording toolbox) (quarantineStep sagaId step)
      (fun _ => Recorded toolbox planned sagaId) (fun _ _ => False) state := by
  obtain ⟨record, found, executing, named⟩ := broken.started
  obtain ⟨attempt, earlier, listed, own, honest, others⟩ := broken.last
  unfold quarantineStep
  rw [wp_bind, wp_attempt, wp_bind]
  apply wp_transition trivial
  · intro entry present legal
    have same : entry = record := Option.some.inj (present.symm.trans found)
    have filed : record.stepId = step.stepId := Table.find_key found
    rw [wp_pure]
    unfold deadLetterRecovery
    rw [wp_bind]
    apply wp_write_state trivial
    apply wp_push_dead_letter trivial
    intro other member
    change other ∈ state.world.attempts at member
    rw [listed, List.mem_cons] at member
    rcases member with last | before
    · rw [last]
      refine ⟨honest, fun _ => ?_⟩
      constructor
      · rw [own]
        refine ⟨_, (Store.effect_put_effect _ _ _ _ _).trans (if_pos ⟨rfl, ?_⟩), rfl⟩
        rw [same]
        exact filed
      · rw [own, same, ← named]
        exact List.mem_cons_self
    · exact ⟨(others other before).1, fun raised => absurd raised (others other before).2⟩
  · intro refusal illegal
    exact absurd (by simp [executing]) (illegal record found)

/-- What the `except` block of a step finds: nothing has raised, or this step
has, and the flags say so. -/
def Faulted (toolbox : Toolbox Args W) (planned : ActionPayload Args → Prop) (sagaId : String)
    (step : SagaStep Args) (fault : StepFault) (state : System Args (Ledger Args W)) : Prop :=
  Quiet toolbox planned state ∨
    fault.executionAmbiguous = true ∧ fault.journaled = true ∧
      Broken toolbox planned sagaId step state

theorem fails_step {fault : StepFault} (faulted : Faulted toolbox planned sagaId step fault state) :
    wp (recording toolbox) (self.failStep sagaId step fault)
      (fun _ => Recorded toolbox planned sagaId) (fun _ => Recorded toolbox planned sagaId)
      state := by
  rcases faulted with quiet | ⟨ambiguous, journaled, broken⟩
  · have rollback : Uses Spares (self.executeCompensations sagaId (completedSteps sagaId) :
      Action Args Unit) := spares_execute_compensations self
    have quarantine : Uses Idle (quarantineStep sagaId step) :=
      uses_mono (fun _ => unwinds_idle) (unwinds_quarantine_step step)
    apply fail_step_rule (Quiet toolbox planned)
    · apply wp_mono (quiet_idle (uses_mono (fun _ => Spares.idle) rollback) quiet)
      · exact fun _ _ quiet => quiet
      · exact fun _ _ quiet => quiet.recorded
    · intro between quiet _ _
      apply wp_mono (quiet_idle quarantine quiet)
      · exact fun _ _ quiet => quiet.recorded
      · exact fun _ _ quiet => quiet.recorded
    · exact fun quiet _ => quiet.recorded
  · apply fail_step_rule (Broken toolbox planned sagaId step)
    · apply wp_unfailing ((retreating toolbox planned self sagaId step).execute_compensations broken)
      exact fun _ _ broken => broken
    · intro between broken _ _
      apply wp_unfailing (broken_quarantined broken)
      exact fun _ _ recorded => recorded
    · exact fun _ certain => absurd ⟨ambiguous, journaled⟩ certain

/-- The step is registered and marked as started, or nothing was executed. -/
theorem marks_executing (journaled : self.store = .journaled)
    (quiet : Quiet toolbox planned state) :
    wp (recording toolbox) (self.markExecuting sagaId step)
      (fun _ after => Quiet toolbox planned after ∧ Started sagaId step after.store)
      (fun _ => Quiet toolbox planned) state := by
  have start : ∀ (record : Effect Args) (between : System Args (Ledger Args W)),
      between.store.effect? sagaId step.stepId = some record → record.stepName = step.stepName →
      Quiet toolbox planned between → wp (recording toolbox) (do
        let _ ← flagged true false (onStore (.transitionEffect sagaId step.stepId [.prepared]
          .executing none none))
        pure () : Program (coordinatorFace Args) StepFault Unit)
        (fun _ after => Quiet toolbox planned after ∧ Started sagaId step after.store)
        (fun _ => Quiet toolbox planned) between := by
    intro record between found named quiet
    have filed : record.stepId = step.stepId := Table.find_key found
    rw [wp_bind, wp_flagged]
    apply wp_transition trivial
    · intro entry present legal
      have same : entry = record := Option.some.inj (present.symm.trans found)
      rw [wp_pure, same]
      refine ⟨quiet, _, (Store.effect_put_effect _ _ _ _ _).trans (if_pos ⟨rfl, filed⟩), rfl, named⟩
    · exact fun _ _ => quiet
  unfold markExecuting
  rw [if_pos (journals_of_journaled journaled), wp_bind, wp_flagged]
  apply wp_prepare trivial
  · intro existing known agrees
    apply start existing _ known _ quiet
    rw [Store.sameEffect, decide_eq_true_eq] at agrees
    exact agrees.1
  · intro entry absent shape
    apply start entry
    · exact (Store.effect_put_effect _ _ _ _ _).trans (if_pos ⟨rfl, by rw [shape]⟩)
    · rw [shape]
    · exact quiet
  · exact fun _ => quiet

variable [Inhabited Args]

theorem executes_step (journaled : self.store = .journaled) (listed : planned step.action)
    (quiet : Quiet toolbox planned state) :
    wp (recording toolbox) (self.executeStep sagaId step) (fun _ => Quiet toolbox planned)
      (Faulted toolbox planned sagaId step) state := by
  have ends : ∀ {Value : Type} {program : Program (coordinatorFace Args) StepFault Value}
      {between : System Args (Ledger Args W)}, Uses (Clerical sagaId) program →
      Quiet toolbox planned between → wp (recording toolbox) program
        (fun _ => Quiet toolbox planned) (Faulted toolbox planned sagaId step) between := by
    intro Value program between settles quiet
    apply wp_mono (quiet_idle (uses_mono (fun _ => clerical_idle) settles) quiet)
    · exact fun _ _ quiet => quiet
    · exact fun _ _ quiet => .inl quiet
  apply execute_step_rule fun between => Quiet toolbox planned between ∧
    Started sagaId step between.store
  · apply wp_mono (marks_executing journaled quiet)
    · exact fun _ _ marked => marked
    · exact fun _ _ quiet => .inl quiet
  · intro between ⟨quiet, started⟩
    apply wp_outside trivial
    · rintro result world ⟨left, answered, rfl⟩
      have answeredQuiet : Quiet toolbox planned { between with world := { between.world with
          world := left
          attempts := ⟨step, between.world.world, .ok result, left⟩ :: between.world.attempts } } := by
        intro attempt member
        rcases List.mem_cons.mp member with last | earlier
        · rw [last]
          refine ⟨⟨listed, answered⟩, ?_⟩
          rintro ⟨error, raised⟩
          cases raised
        · exact quiet attempt earlier
      split
      · apply ends _ answeredQuiet
        intro _
        exact wp_mono (self.commits_step step result) (fun _ _ _ => trivial) fun _ _ _ => trivial
      · exact ends (fun _ => aborts_step (fun _ => True) self step result) answeredQuiet
    · rintro error world ⟨left, answered, rfl⟩
      right
      rw [journals_of_journaled journaled]
      refine ⟨rfl, rfl, ?_, started⟩
      exact ⟨_, _, rfl, rfl, ⟨listed, answered⟩, quiet⟩

theorem attempts_step (journaled : self.store = .journaled) {before after : List (SagaStep Args)}
    (listed : planned step.action) (quiet : Quiet toolbox planned state) :
    wp (recording toolbox) (self.attemptStep sagaId before step after)
      (fun _ => Quiet toolbox planned) (Faulted toolbox planned sagaId step) state := by
  have idle : ∀ {Value : Type} {action : Action Args Value} {between : System Args (Ledger Args W)},
      Uses Idle action → Quiet toolbox planned between →
      wp (recording toolbox) action (fun _ => Quiet toolbox planned)
        (fun _ => Quiet toolbox planned) between := fun uses quiet => quiet_idle uses quiet
  have asks : ∀ {Value : Type} {action : Action Args Value}, Uses Enquiry action → Uses Idle action :=
    fun uses => uses_mono (fun _ => enquiry_idle) uses
  apply attempt_step_rule (Quiet toolbox planned) (Quiet toolbox planned) (Quiet toolbox planned)
  case verifies =>
    apply wp_mono (idle (asks enquiry_verify) quiet)
    · intro verdict between quiet
      split
      · exact quiet
      · exact quiet
    · exact fun _ _ quiet => .inl quiet
  case checks =>
    intro between quiet
    apply wp_mono (idle (asks (self.enquiry_preflight step)) quiet)
    · exact fun _ _ quiet => quiet
    · exact fun _ _ quiet => .inl quiet
  case waits =>
    intro between quiet _ _
    apply wp_mono (idle (idle_await_approval self _ _) quiet)
    · exact fun _ _ quiet => quiet
    · exact fun _ _ quiet => .inl quiet
  case executes => exact fun quiet _ => executes_step journaled listed quiet
  case retreats =>
    intro between quiet
    apply wp_mono (idle (uses_mono (fun _ => Spares.idle) (spares_execute_compensations self)) quiet)
    · exact fun _ _ quiet => quiet
    · exact fun _ _ quiet => .inl quiet

theorem executes_steps (journaled : self.store = .journaled) (before steps : List (SagaStep Args))
    (listed : ∀ step ∈ steps, planned step.action) (quiet : Quiet toolbox planned state) :
    wp (recording toolbox) (self.executeSteps sagaId before steps)
      (fun _ => Recorded toolbox planned sagaId) (fun _ => Recorded toolbox planned sagaId)
      state := by
  let ready (_ steps : List (SagaStep Args)) (state : System Args (Ledger Args W)) : Prop :=
    (∀ step ∈ steps, planned step.action) ∧ Quiet toolbox planned state
  apply execute_steps_rule ready fun before step rest => ready before (step :: rest)
  case closes =>
    intro before state ⟨_, quiet⟩
    have closing : Uses Idle (self.closeBatch sagaId : Action Args Unit) := by
      apply conforms_bind (idle_memory _)
      intro _
      exact conforms_bind (idle_write_status self _ _) fun _ => idle_memory _
    apply wp_mono (quiet_idle closing quiet)
    · exact fun _ _ quiet => quiet.recorded
    · exact fun _ _ quiet => quiet.recorded
  case asks =>
    intro before step rest state ⟨listed, quiet⟩
    have enquires : Uses Idle (self.alreadyCommitted sagaId step) :=
      uses_mono (fun _ => enquiry_idle) (self.enquiry_already_committed sagaId step)
    apply wp_mono (quiet_idle enquires quiet)
    · intro skip between quiet
      split
      · exact ⟨(List.forall_mem_cons.mp listed).2, quiet⟩
      · exact ⟨listed, quiet⟩
    · exact fun _ _ quiet => quiet.recorded
  case attempts =>
    intro before step rest state ⟨listed, quiet⟩
    rw [List.forall_mem_cons] at listed
    have running : planned { step with status := .running }.action := listed.1
    apply wp_mono (attempts_step journaled running quiet)
    · intro outcome last quiet
      cases outcome with
      | some committed => exact ⟨listed.2, quiet⟩
      | none => exact quiet.recorded
    · exact fun fault last faulted => fails_step faulted
  case here => exact ⟨listed, quiet⟩

/-- However a batch ends, an execution that raised is on record as ambiguous. -/
theorem executes_saga (journaled : self.store = .journaled) {steps : List (SagaStep Args)}
    (listed : ∀ step ∈ steps, planned step.action) (quiet : Quiet toolbox planned state) :
    wp (recording toolbox) (self.executeSaga sagaId steps)
      (fun _ => Recorded toolbox planned sagaId) (fun _ => Recorded toolbox planned sagaId)
      state := by
  unfold executeSaga
  rw [wp_bind]
  apply wp_memory trivial
  rw [wp_ite]
  split
  · exact executes_steps journaled [] steps listed quiet
  · exact quiet.recorded

end Runs

end SagaMind.Attempts
