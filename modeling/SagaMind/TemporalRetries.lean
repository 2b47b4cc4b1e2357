import SagaMind.StepHistory

/-!
# Activities that Temporal retries

An activity starts and executes one saga on a coordinator of its own. Temporal
runs it again when its worker dies, when it raises and when it answers too late,
so that an earlier attempt may still be running. However often that happens, an
attempt that reports success speaks for one execution of every step.
-/

namespace SagaMind.TemporalWorker

open CallProgram KeyedTable Coordinator JournalProtocol StepHistory

set_option autoImplicit false

variable {Args : Type}

def buildStep (raw : StepRecord Args) : SagaStep Args where
  stepId := raw.stepId
  stepName := raw.stepName
  action := raw.action
  compensation := raw.compensation
  invariants := raw.invariants
  idempotencyKey := raw.idempotencyKey
  requiresApproval := raw.requiresApproval

structure ActivityPayload (Args : Type) where
  sagaId : String
  goal : String
  tenantId : String
  steps : List (StepRecord Args)

structure ActivityResult where
  success : Bool
  status : SagaStatus
  deriving DecidableEq

section Activities

variable [DecidableEq Args] [Inhabited Args]

/-- `execute_saga_activity`, on a coordinator that was just made. -/
def executeSagaActivity (self : Coordinator) (payload : ActivityPayload Args) :
    Action Args ActivityResult := do
  self.startTransactionLog payload.sagaId payload.goal payload.tenantId
  let success ← self.executeSaga payload.sagaId (payload.steps.map buildStep)
  match ← onMemory (.lookupSaga payload.sagaId) with
  | none => .raise (.key payload.sagaId)
  | some saga => pure ⟨success, saga.status⟩

/-- Any number of attempts, each on a coordinator of its own over one store.
`attempts` tells what each of them was given. -/
def activities (attempts : Nat → ActivityPayload Args) :
    Setting (coordinatorFace Args) PyError ActivityResult Nat (Progress Args) (Cluster Args) where
  admits := fun owner program => ∃ self : Coordinator,
    self.store = .journaled ∧ program = executeSagaActivity self (attempts owner)
  serve := serveInCluster
  lose := fun owner before after =>
    after = { before with memories := Function.update before.memories owner .empty }
  start := {}
  note := Progress.note
  permits := fun _ _ _ _ => True

theorem activity_rule {State : Type} {machine : Machine (coordinatorFace Args) State}
    {self : Coordinator} {payload : ActivityPayload Args} {state : State}
    {post : ActivityResult → State → Prop} (ready : State → Prop) (ended : Bool → State → Prop)
    (starts : wp machine
      (self.startTransactionLog payload.sagaId payload.goal payload.tenantId : Action Args Unit)
      (fun _ => ready) (fun _ _ => True) state)
    (looks : ∀ {between}, ready between → wp machine (onMemory (.lookupSaga payload.sagaId))
      (fun _ => ready) (fun _ _ => True) between)
    (executes : ∀ {between}, ready between → wp machine
      (self.executeSteps payload.sagaId [] (payload.steps.map buildStep)) ended (fun _ _ => True)
      between)
    (reports : ∀ {success between}, ended success between →
      wp machine (onMemory (.lookupSaga payload.sagaId))
        (fun _ last => ∀ status, post ⟨success, status⟩ last) (fun _ _ => True) between) :
    wp machine (executeSagaActivity self payload) post (fun _ _ => True) state := by
  unfold executeSagaActivity executeSaga
  apply wp_seq starts
  intro _ between here
  rw [wp_bind, wp_bind]
  apply wp_mono (looks here)
  · intro saga between here
    rw [wp_ite]
    split
    · apply wp_mono (executes here)
      · intro success last finished
        apply wp_seq (reports finished)
        intro saga last reported
        cases saga with
        | none => trivial
        | some saga => exact reported saga.status
      · exact fun _ _ _ => trivial
    · trivial
  · exact fun _ _ _ => trivial

end Activities

section Tallies

def started (step : SagaStep Args) : SagaStep Args := { step with status := .running }

structure Tally (Args : Type) where
  running : Option (String × SagaStep Args) := none
  steps : List (String × SagaStep Args) := []
  keys : List (String × String) := []

namespace Tally

def note : (request : Call Args) → Except PyError request.Answer → Tally Args → Tally Args
  | .outside (.execute sagaId step), .ok result, tally =>
      { tally with running := if result.succeeded then some (sagaId, step) else none }
  | .outside (.execute ..), .error _, tally => { tally with running := none }
  | .store (.commitEffect ..), .ok _, tally =>
      { tally with steps := tally.running.toList ++ tally.steps }
  | .store (.stepAlreadyCommitted sagaId key), .ok true, tally =>
      { tally with keys := (sagaId, key) :: tally.keys }
  | _, _, tally => tally

/-- Only planned steps are executed, and only what was executed is committed. -/
def allowed (planned : String → SagaStep Args → Prop) : Call Args → Tally Args → Prop
  | .store (.commitEffect sagaId _ key), tally =>
      ∃ step, tally.running = some (sagaId, step) ∧ step.idempotencyKey = key
  | .outside (.execute sagaId step), _ => planned sagaId step
  | _, _ => True

end Tally

def Covered (sagaId : String) (step : SagaStep Args) (tally : Tally Args) : Prop :=
  (sagaId, started step) ∈ tally.steps ∨
    ∃ key, step.idempotencyKey = some key ∧ key ≠ "" ∧ (sagaId, key) ∈ tally.keys

abbrev CoversAll (sagaId : String) (steps : List (SagaStep Args)) (tally : Tally Args) : Prop :=
  ∀ step ∈ steps, Covered sagaId step tally

variable {planned : String → SagaStep Args → Prop} {sagaId : String} {step : SagaStep Args}
  {request : Call Args} {tally : Tally Args} {done : List (SagaStep Args)}

theorem note_grows (reply : Except PyError request.Answer) :
    tally.steps ⊆ (tally.note request reply).steps ∧
      tally.keys ⊆ (tally.note request reply).keys := by
  cases request with
  | memory request => exact ⟨List.Subset.refl _, List.Subset.refl _⟩
  | store request =>
      cases request with
      | commitEffect =>
          cases reply with
          | error error => exact ⟨List.Subset.refl _, List.Subset.refl _⟩
          | ok effect => exact ⟨List.subset_append_right _ _, List.Subset.refl _⟩
      | stepAlreadyCommitted =>
          cases reply with
          | error error => exact ⟨List.Subset.refl _, List.Subset.refl _⟩
          | ok known =>
              cases known with
              | true => exact ⟨List.Subset.refl _, List.subset_cons_self _ _⟩
              | false => exact ⟨List.Subset.refl _, List.Subset.refl _⟩
      | _ => exact ⟨List.Subset.refl _, List.Subset.refl _⟩
  | outside request =>
      cases request with
      | execute =>
          cases reply with
          | error error => exact ⟨List.Subset.refl _, List.Subset.refl _⟩
          | ok result => exact ⟨List.Subset.refl _, List.Subset.refl _⟩
      | _ => exact ⟨List.Subset.refl _, List.Subset.refl _⟩

theorem covers_note (covers : CoversAll sagaId done tally)
    (reply : Except PyError request.Answer) : CoversAll sagaId done (tally.note request reply) := by
  intro step member
  have grown : tally.steps ⊆ (tally.note request reply).steps ∧
      tally.keys ⊆ (tally.note request reply).keys := note_grows reply
  obtain ⟨steps, keys⟩ := grown
  rcases covers step member with committed | ⟨key, own, filled, published⟩
  · exact .inl (steps committed)
  · exact .inr ⟨key, own, filled, keys published⟩

abbrev tallying (planned : String → SagaStep Args → Prop) :
    Machine (coordinatorFace Args) (Tally Args) :=
  @noting (coordinatorFace Args) (Tally Args) (Tally.allowed planned) Tally.note

theorem covers_quiet {Err Value : Type} {program : Program (coordinatorFace Args) Err Value}
    (uses : Uses (Quiet false) program) (covers : CoversAll sagaId done tally) :
    wp (tallying planned) program (fun _ tally => CoversAll sagaId done tally)
      (fun _ tally => CoversAll sagaId done tally) tally := by
  have permitted : ∀ request tally, Quiet false request → CoversAll sagaId done tally →
      (tallying planned).allowed request tally := by
    intro request tally quiet _
    cases request with
    | memory request => trivial
    | store request =>
        cases request with
        | commitEffect => cases quiet
        | _ => trivial
    | outside request =>
        cases request with
        | execute => cases quiet
        | _ => trivial
  have kept : ∀ request before reply after, Quiet false request → CoversAll sagaId done before →
      (tallying planned).step request before reply after → CoversAll sagaId done after := by
    rintro request before reply after _ covers rfl
    exact covers_note covers reply
  have ended := wp_maintains permitted kept (uses ()) covers
  exact wp_mono ended (fun _ _ ended => ended.2) fun _ _ ended => ended.2

end Tallies

section Programs

variable [Inhabited Args] {self : Coordinator} {planned : String → SagaStep Args → Prop}
  {sagaId : String} {step : SagaStep Args} {tally : Tally Args} {done : List (SagaStep Args)}

omit [Inhabited Args] in
theorem tally_store {request : StoreCall Args} {post : request.Answer → Tally Args → Prop}
    {failed : PyError → Tally Args → Prop} (here : tally.allowed planned (.store request))
    (answered : ∀ answer, post answer (tally.note (.store request) (.ok answer)))
    (raised : ∀ error, failed error (tally.note (.store request) (.error error))) :
    wp (tallying planned) (onStore request) post failed tally :=
  wp_noting here answered raised

theorem covers_commit_step (journaled : self.store = .journaled) (result : ExecuteResult Args)
    (running : tally.running = some (sagaId, step)) (covers : CoversAll sagaId done tally) :
    wp (tallying planned) (self.commitStep sagaId step result)
      (fun _ tally => CoversAll sagaId done tally ∧ (sagaId, step) ∈ tally.steps)
      (fun _ _ => True) tally := by
  unfold commitStep markApplied
  rw [wp_bind, if_pos (journals_of_journaled journaled), wp_bind, wp_flagged]
  apply tally_store
  · trivial
  · intro effect
    rw [wp_pure, wp_bind, wp_flagged]
    refine wp_noting trivial (fun _ => ?_) fun _ => trivial
    unfold publishStep
    rw [wp_bind, if_pos (journals_of_journaled journaled), wp_bind, wp_flagged]
    apply tally_store
    · exact ⟨step, running, rfl⟩
    · intro effect
      rw [wp_pure, wp_bind, wp_flagged, record_history_journaled journaled]
      apply tally_store
      · trivial
      · intro _
        refine ⟨covers_note (covers_note covers _) _, List.mem_append_left _ ?_⟩
        exact Option.mem_toList.mpr running
      · exact fun _ => trivial
    · exact fun _ => trivial
  · exact fun _ => trivial

theorem covers_execute_step (journaled : self.store = .journaled) (plans : planned sagaId step)
    (covers : CoversAll sagaId done tally) :
    wp (tallying planned) (self.executeStep sagaId step)
      (fun _ tally => CoversAll sagaId done tally ∧ (sagaId, step) ∈ tally.steps)
      (fun _ _ => True) tally := by
  apply execute_step_rule (CoversAll sagaId done)
  · exact wp_mono (covers_quiet quiet_mark_executing covers) (fun _ _ marked => marked)
      fun _ _ _ => trivial
  · intro between covers
    refine wp_noting plans (fun result => ?_) fun _ => trivial
    split
    · rename_i succeeded
      apply covers_commit_step journaled result
      · simp only [Tally.note, succeeded, if_true]
      · exact covers_note covers _
    · unfold abortStep
      rw [if_pos (journals_of_journaled journaled), wp_bind, wp_flagged]
      exact tally_store trivial (fun _ => trivial) fun _ => trivial

variable [DecidableEq Args]

/-- An attempt at a step goes on only if the step was executed and committed. -/
theorem covers_attempt_step (journaled : self.store = .journaled) (plans : planned sagaId step)
    (before after : List (SagaStep Args)) (covers : CoversAll sagaId done tally) :
    wp (tallying planned) (self.attemptStep sagaId before step after)
      (fun outcome tally => outcome.isSome = true →
        CoversAll sagaId done tally ∧ (sagaId, step) ∈ tally.steps)
      (fun _ _ => True) tally := by
  let verified (covers : Tally Args) : Prop := CoversAll sagaId done covers
  apply attempt_step_rule verified (fun _ => True) verified
  case verifies =>
    refine wp_noting trivial (fun verdict => ?_) fun _ => trivial
    split
    · exact covers
    · trivial
  case checks =>
    intro between covers
    have checks : Uses (Quiet false) (self.preflight step) :=
      conforms_ite (quiet_outside rfl) (conforms_pure _)
    exact wp_mono (covers_quiet checks covers) (fun _ _ kept => kept) fun _ _ _ => trivial
  case waits =>
    intro between covers _ _
    apply wp_mono (covers_quiet (quiet_await_approval _) covers)
    · exact fun _ _ _ waiting => by cases waiting
    · exact fun _ _ _ => trivial
  case executes =>
    intro between covers _
    exact wp_mono (covers_execute_step journaled plans covers) (fun _ _ ended _ => ended)
      fun _ _ _ => trivial
  case retreats =>
    intro between _
    have nothing : CoversAll sagaId [] between := fun _ member => absurd member List.not_mem_nil
    apply wp_mono (covers_quiet quiet_execute_compensations nothing)
    · exact fun _ _ _ retreated => by cases retreated
    · exact fun _ _ _ => trivial

theorem covers_execute_steps (journaled : self.store = .journaled) {steps : List (SagaStep Args)}
    (plans : ∀ step ∈ steps, planned sagaId (started step)) (before : List (SagaStep Args)) :
    wp (tallying planned) (self.executeSteps sagaId before steps)
      (fun success tally => success = true → CoversAll sagaId steps tally) (fun _ _ => True)
      tally := by
  let ready (_ rest : List (SagaStep Args)) (tally : Tally Args) : Prop :=
    ∃ done, done ++ rest = steps ∧ CoversAll sagaId done tally
  apply execute_steps_rule ready fun before step rest => ready before (step :: rest)
  case closes =>
    rintro before state ⟨done, rfl, covers⟩
    rw [List.append_nil]
    have closing : Uses (Quiet false) (self.closeBatch sagaId : Action Args Unit) :=
      conforms_bind (quiet_memory _) fun _ =>
        conforms_bind (quiet_write_status _ _) fun _ => quiet_memory _
    exact wp_mono (covers_quiet closing covers) (fun _ _ kept _ => kept) fun _ _ _ => trivial
  case asks =>
    rintro before step rest tally ⟨done, shape, covers⟩
    unfold alreadyCommitted
    rw [wp_ite]
    split
    · rename_i keyed
      obtain ⟨key, own, filled⟩ : ∃ key, step.idempotencyKey = some key ∧ key ≠ "" := by
        cases own : step.idempotencyKey with
        | none =>
            rw [own] at keyed
            cases keyed.1
        | some key => exact ⟨key, rfl, by simpa [truthy, own] using keyed.1⟩
      rw [own]
      apply tally_store
      · trivial
      · intro known
        cases known with
        | false => exact ⟨done, shape, covers⟩
        | true =>
            refine ⟨done ++ [step], by simp [shape], List.forall_mem_append.mpr ⟨?_, ?_⟩⟩
            · exact covers_note covers _
            · exact List.forall_mem_singleton.mpr (.inr ⟨key, own, filled, List.mem_cons_self ..⟩)
      · exact fun _ => trivial
    · exact ⟨done, shape, covers⟩
  case attempts =>
    rintro before step rest tally ⟨done, rfl, covers⟩
    have plan : planned sagaId (started step) := plans step (by simp)
    apply wp_mono (covers_attempt_step journaled plan before rest covers)
    · intro outcome tally ended
      cases outcome with
      | none => exact fun success => by cases success
      | some committed =>
          obtain ⟨kept, own⟩ := ended rfl
          refine ⟨done ++ [step], by simp, List.forall_mem_append.mpr ⟨kept, ?_⟩⟩
          exact List.forall_mem_singleton.mpr (.inl own)
    · intro fault tally _
      have nothing : CoversAll sagaId [] tally := fun _ member => absurd member List.not_mem_nil
      apply wp_mono (covers_quiet (quiet_fail_step fault) nothing)
      · exact fun _ _ _ success => by cases success
      · exact fun _ _ _ => trivial
  case here => exact ⟨[], rfl, fun _ member => absurd member List.not_mem_nil⟩

/-- An attempt that reports success covers all steps of its payload. -/
theorem covers_activity (journaled : self.store = .journaled) (payload : ActivityPayload Args)
    (plans : ∀ raw ∈ payload.steps, planned payload.sagaId (started (buildStep raw))) :
    wp (tallying planned) (executeSagaActivity self payload)
      (fun result tally => result.success = true →
        CoversAll payload.sagaId (payload.steps.map buildStep) tally) (fun _ _ => True) tally := by
  have nothing : CoversAll payload.sagaId [] tally := fun _ member => absurd member List.not_mem_nil
  have starts : Uses (Quiet false)
      (self.startTransactionLog payload.sagaId payload.goal payload.tenantId : Action Args Unit) :=
    conforms_bind (quiet_memory _) fun _ => conforms_ite (conforms_raise _)
      (conforms_bind (quiet_memory _) fun _ => quiet_write_status _ _)
  apply activity_rule (fun _ => True) fun success tally => success = true →
    CoversAll payload.sagaId (payload.steps.map buildStep) tally
  case starts =>
    exact wp_mono (covers_quiet starts nothing) (fun _ _ _ => trivial) fun _ _ _ => trivial
  case looks =>
    intro between _
    exact wp_noting trivial (fun _ => trivial) fun _ => trivial
  case executes =>
    intro between _
    exact covers_execute_steps journaled (List.forall_mem_map.mpr plans) []
  case reports =>
    intro success between covered
    refine wp_noting trivial (fun saga status succeeded => ?_) fun _ => trivial
    exact covers_note (covered succeeded) _

theorem disciplined_activity (journaled : self.store = .journaled)
    (payload : ActivityPayload Args) :
    wp disciplined (executeSagaActivity self payload) (fun _ _ => True) (fun _ _ => True) {} := by
  -- Nothing is armed until the batch is run.
  apply activity_rule (fun progress => progress.stage = .idle) fun _ _ => True
  case starts =>
    unfold startTransactionLog
    rw [wp_bind]
    refine disciplined_memory (fun known => ?_) fun _ => trivial
    rw [wp_ite]
    split
    · trivial
    · rw [wp_bind]
      refine disciplined_memory (fun _ => ?_) fun _ => trivial
      rw [write_status_journaled journaled]
      exact disciplined_store trivial (fun _ => rfl) fun _ => trivial
  case looks =>
    intro between idle
    exact disciplined_memory (fun _ => idle) fun _ => trivial
  case executes =>
    intro between idle
    exact disciplined_execute_steps journaled _ _ idle
  case reports =>
    intro success between _
    exact disciplined_memory (fun _ _ => trivial) fun _ => trivial

end Programs

section Books

variable {planned : String → SagaStep Args → Prop} {trace : List (Event (coordinatorFace Args))}
  {event : Event (coordinatorFace Args)} {sagaId key : String} {step : SagaStep Args}
  {tally : Tally Args} {request : Call Args} {reply : Except PyError request.Answer}
  {before after : Cluster Args} {owner : Nat}

structure Executed (planned : String → SagaStep Args → Prop)
    (trace : List (Event (coordinatorFace Args))) (sagaId : String) (step : SagaStep Args) :
    Prop where
  plan : planned sagaId step
  result : ∃ result : ExecuteResult Args, result.succeeded = true ∧
    ⟨.outside (.execute sagaId step), .ok result⟩ ∈ trace

def Settled (planned : String → SagaStep Args → Prop)
    (trace : List (Event (coordinatorFace Args))) (sagaId key : String) : Prop :=
  ∃ step, step.idempotencyKey = some key ∧ Executed planned trace sagaId step

theorem Executed.later (executed : Executed planned trace sagaId step) :
    Executed planned (trace ++ [event]) sagaId step where
  plan := executed.plan
  result := by
    obtain ⟨result, succeeded, member⟩ := executed.result
    exact ⟨result, succeeded, List.mem_append_left _ member⟩

theorem Settled.later (settled : Settled planned trace sagaId key) :
    Settled planned (trace ++ [event]) sagaId key := by
  obtain ⟨step, own, executed⟩ := settled
  exact ⟨step, own, executed.later⟩

structure Known (planned : String → SagaStep Args → Prop)
    (trace : List (Event (coordinatorFace Args))) (store : Store Args) (tally : Tally Args) :
    Prop where
  running : ∀ entry ∈ tally.running, Executed planned trace entry.1 entry.2
  steps : ∀ entry ∈ tally.steps, Executed planned trace entry.1 entry.2
  keys : ∀ entry ∈ tally.keys, Settled planned trace entry.1 entry.2
  stored : ∀ entry ∈ tally.steps, ∀ key, entry.2.idempotencyKey = some key → key ≠ "" →
    store.stepAlreadyCommitted entry.1 key = true
  found : ∀ entry ∈ tally.keys, store.stepAlreadyCommitted entry.1 entry.2 = true

theorem Known.later {old new : Store Args} (known : Known planned trace old tally)
    (keeps : ∀ sagaId key, old.stepAlreadyCommitted sagaId key = true →
      new.stepAlreadyCommitted sagaId key = true) :
    Known planned (trace ++ [event]) new tally where
  running := fun entry member => (known.running entry member).later
  steps := fun entry member => (known.steps entry member).later
  keys := fun entry member => (known.keys entry member).later
  stored := fun entry member key own filled => keeps _ _ (known.stored entry member key own filled)
  found := fun entry member => keeps _ _ (known.found entry member)

def Published (planned : String → SagaStep Args → Prop)
    (trace : List (Event (coordinatorFace Args))) (store : Store Args) : Prop :=
  ∀ sagaId key, store.stepAlreadyCommitted sagaId key = true → Settled planned trace sagaId key

variable [DecidableEq Args]

theorem published_serve {store : Store Args} (request : StoreCall Args)
    (published : store.stepAlreadyCommitted sagaId key = true) :
    (request.serve store).2.stepAlreadyCommitted sagaId key = true := by
  cases request with
  | prepareEffect other stepId stepName action compensation given =>
      rcases store.prepare_effect_cases other stepId stepName action compensation given with
        ⟨_, _, _, same⟩ | ⟨_, same⟩ | ⟨_, _, _, same⟩ <;> rw [StoreCall.serve, same]
      · exact published
      · exact published
      · exact published
  | transitionEffect other stepId expected newState result error =>
      rcases store.transition_effect_cases other stepId expected newState result error with
        ⟨_, _, _, same⟩ | ⟨_, _, same⟩ <;> rw [StoreCall.serve, same]
      · exact published
      · exact published
  | commitEffect other stepId given =>
      rcases store.commit_effect_cases other stepId given with
        ⟨_, _, _, same⟩ | ⟨_, _, same⟩ <;> rw [StoreCall.serve, same]
      · exact Store.publish_keeps published
      · exact published
  | markStepCommitted other given =>
      by_cases same : sagaId = other
      · subst same
        simp only [StoreCall.serve, Store.stepAlreadyCommitted, Store.markStepCommitted,
          Function.update_self] at published ⊢
        simp_all
      · simpa [StoreCall.serve, Store.stepAlreadyCommitted, Store.markStepCommitted, same]
          using published
  | _ => exact published

theorem published_call {request : Call Args} {reply : Except PyError request.Answer}
    (served : serveInCluster owner request before reply after)
    (published : before.store.stepAlreadyCommitted sagaId key = true) :
    after.store.stepAlreadyCommitted sagaId key = true := by
  rcases request with request | request | request
  · obtain ⟨-, rfl⟩ := served
    exact published
  · obtain ⟨rfl, rfl⟩ := served
    exact published_serve request published
  · obtain rfl := served
    exact published

omit [DecidableEq Args] in
theorem published_commit {store : Store Args} {stepId : String} {effect : Effect Args}
    (answered : (store.commitEffect sagaId stepId (some key)).1 = .ok effect) (filled : key ≠ "") :
    (store.commitEffect sagaId stepId (some key)).2.stepAlreadyCommitted sagaId key = true := by
  rcases store.commit_effect_cases sagaId stepId (some key) with
    ⟨_, _, _, same⟩ | ⟨_, _, same⟩ <;> rw [same] at answered ⊢
  · simp [Store.publish, truthy, filled, Store.stepAlreadyCommitted, Store.markStepCommitted]
  · cases answered

theorem Known.noted (known : Known planned trace before.store tally)
    (published : Published planned trace before.store) (here : tally.allowed planned request)
    (served : serveInCluster owner request before reply after) :
    Known planned (trace ++ [⟨request, reply⟩]) after.store (tally.note request reply) := by
  have old : Known planned (trace ++ [⟨request, reply⟩]) after.store tally :=
    known.later fun sagaId key => published_call served
  cases request with
  | memory request => exact old
  | store request =>
      cases request with
      | commitEffect other stepId key =>
          cases reply with
          | error error => exact old
          | ok effect =>
              obtain ⟨answered, rfl⟩ := served
              refine ⟨old.running, List.forall_mem_append.mpr ⟨?_, old.steps⟩, old.keys,
                List.forall_mem_append.mpr ⟨?_, old.stored⟩, old.found⟩
              · exact fun entry member => old.running entry (Option.mem_toList.mp member)
              · intro entry member name own filled
                obtain ⟨step, running, mine⟩ := here
                rw [running] at member
                obtain rfl := List.mem_singleton.mp member
                obtain rfl := mine.symm.trans own
                exact published_commit answered.symm filled
      | stepAlreadyCommitted other key =>
          obtain ⟨answered, rfl⟩ := served
          cases reply with
          | error error => exact old
          | ok found =>
              cases found with
              | false => exact old
              | true =>
                  have present := (Except.ok.inj answered).symm
                  refine ⟨old.running, old.steps, List.forall_mem_cons.mpr ⟨?_, old.keys⟩,
                    old.stored, List.forall_mem_cons.mpr ⟨present, old.found⟩⟩
                  exact (published other key present).later
      | _ => exact old
  | outside request =>
      cases request with
      | execute other ran =>
          cases reply with
          | error error =>
              exact ⟨fun entry member => (by cases member), old.steps, old.keys, old.stored,
                old.found⟩
          | ok result =>
              refine ⟨?_, old.steps, old.keys, old.stored, old.found⟩
              intro entry member
              simp only [Tally.note] at member
              split at member
              · rename_i succeeded
                cases member
                have event : (⟨.outside (.execute other ran), .ok result⟩ :
                    Event (coordinatorFace Args)) ∈ [⟨.outside (.execute other ran), .ok result⟩] :=
                  List.mem_singleton.mpr rfl
                exact ⟨here, result, succeeded, List.mem_append_right _ event⟩
              · cases member
      | _ => exact old

theorem Published.noted (published : Published planned trace before.store)
    (known : Known planned trace before.store tally) (here : tally.allowed planned request)
    {progress : Progress Args} (disciplined : Progress.allowed request progress)
    (served : serveInCluster owner request before reply after) :
    Published planned (trace ++ [⟨request, reply⟩]) after.store := by
  have old : Published planned (trace ++ [⟨request, reply⟩]) before.store :=
    fun sagaId key found => (published sagaId key found).later
  cases request with
  | memory request =>
      obtain ⟨-, rfl⟩ := served
      exact old
  | outside request =>
      obtain rfl := served
      exact old
  | store request =>
      obtain ⟨rfl, rfl⟩ := served
      cases request with
      | prepareEffect other stepId name action compensation key =>
          rcases before.store.prepare_effect_cases other stepId name action compensation key with
            ⟨_, _, _, same⟩ | ⟨_, same⟩ | ⟨_, _, _, same⟩ <;>
            simp only [StoreCall.serve, same] at old ⊢
          · exact old
          · exact old
          · exact old
      | transitionEffect other stepId expected state result error =>
          rcases before.store.transition_effect_cases other stepId expected state result error with
            ⟨_, _, _, same⟩ | ⟨_, _, same⟩ <;> simp only [StoreCall.serve, same] at old ⊢
          · exact old
          · exact old
      | commitEffect other stepId key =>
          rcases before.store.commit_effect_cases other stepId key with
            ⟨entry, _, _, same⟩ | ⟨_, _, same⟩ <;> simp only [StoreCall.serve, same] at old ⊢
          · intro sagaId name found
            rcases Store.publish_adds found with known | ⟨rfl, own⟩
            · exact old sagaId name known
            · obtain ⟨step, running, mine⟩ := here
              exact ⟨step, mine.trans own, (known.running _ running).later⟩
          · exact old
      | markStepCommitted => exact disciplined.elim
      | _ => exact old

end Books

section Runs

variable [DecidableEq Args] [Inhabited Args] {attempts : Nat → ActivityPayload Args}

def Planned (attempts : Nat → ActivityPayload Args) (sagaId : String) (step : SagaStep Args) :
    Prop :=
  ∃ owner, (attempts owner).sagaId = sagaId ∧
    ∃ raw ∈ (attempts owner).steps, step = started (buildStep raw)

/-- Steps of one saga with one key are one step. -/
def Unambiguous (attempts : Nat → ActivityPayload Args) : Prop :=
  ∀ first second, (attempts first).sagaId = (attempts second).sagaId →
    ∀ raw ∈ (attempts first).steps, ∀ other ∈ (attempts second).steps, ∀ key, key ≠ "" →
      raw.idempotencyKey = some key → other.idempotencyKey = some key →
        buildStep raw = buildStep other

abbrev tallied (attempts : Nat → ActivityPayload Args) : Setting (coordinatorFace Args) PyError
    ActivityResult Nat (Progress Args × Tally Args) (Cluster Args) :=
  (activities attempts).annotated {} Tally.note

abbrev Tallying (attempts : Nat → ActivityPayload Args) (request : Call Args)
    (noted : Progress Args × Tally Args) : Prop :=
  Progress.allowed request noted.1 ∧ Tally.allowed (Planned attempts) request noted.2

theorem activities_keep : (activities attempts).Invariant Progress.allowed Kept where
  spawned := workers_keep.spawned
  called := fun kept here others served => workers_keep.called kept here others served
  crashed := fun kept fewer lost => workers_keep.crashed kept fewer ⟨trivial, lost⟩

theorem tallies_keep : (tallied attempts).Invariant (Tallying attempts) fun cluster trace notes =>
    Kept cluster trace (notes.map Prod.fst) ∧
      (∀ noted ∈ notes, Known (Planned attempts) trace cluster.store noted.2) ∧
      Published (Planned attempts) trace cluster.store := by
  have kept : (tallied attempts).Invariant (Tallying attempts) fun cluster trace notes =>
      Kept cluster trace (notes.map Prod.fst) := activities_keep.annotated
  constructor
  · rintro shared trace notes ⟨journal, known, published⟩
    refine ⟨kept.spawned journal, List.forall_mem_append.mpr ⟨known, ?_⟩, published⟩
    refine List.forall_mem_singleton.mpr ⟨fun _ member => (by cases member), ?_, ?_, ?_, ?_⟩
    · exact fun _ member => absurd member List.not_mem_nil
    · exact fun _ member => absurd member List.not_mem_nil
    · exact fun _ member => absurd member List.not_mem_nil
    · exact fun _ member => absurd member List.not_mem_nil
  · rintro shared after trace left right noted owner request reply ⟨journal, known, published⟩ here
      others served
    have first := known noted List.mem_append_cons_self
    refine ⟨kept.called journal here others served, ?_, ?_⟩
    · have older : ∀ other ∈ left ++ noted :: right,
          Known (Planned attempts) (trace ++ [⟨request, reply⟩]) after.store other.2 :=
        fun other member => (known other member).later fun sagaId key => published_call served
      exact Setting.every_replaced older (first.noted published here.2 served)
    · exact published.noted first here.2 here.1 served
  · rintro shared after trace notes survivors owner ⟨journal, known, published⟩ fewer lost
    have journal := kept.crashed journal fewer lost
    obtain rfl := lost
    exact ⟨journal, fun noted member => known noted (fewer.subset member), published⟩

theorem tallied_serves (owner : Nat) (program : Action Args ActivityResult)
    (admitted : (tallied attempts).admits owner program) :
    (tallied attempts).Serves (fun _ => Tallying attempts)
      (fun owner result noted => result.success = true → CoversAll (attempts owner).sagaId
        ((attempts owner).steps.map buildStep) noted.2)
      (fun _ _ _ => True) ⟨owner, program, (tallied attempts).start⟩ := by
  obtain ⟨self, journaled, rfl⟩ := admitted
  have plans : ∀ raw ∈ (attempts owner).steps,
      Planned attempts (attempts owner).sagaId (started (buildStep raw)) :=
    fun raw member => ⟨owner, rfl, raw, member, rfl⟩
  have obeys : (activities attempts).Obeys Progress.allowed
      (executeSagaActivity self (attempts owner)) (activities attempts).start :=
    disciplined_activity journaled _
  exact wp_annotated obeys (covers_activity journaled _ plans)

theorem steady_tallies :
    SeatInvariant (tallied attempts) (fun _ => Tallying attempts) fun _ _ => True where
  spawned := fun _ _ => trivial
  called := fun _ _ _ _ => trivial
  crashed := fun _ _ => trivial

omit [DecidableEq Args] [Inhabited Args] in
theorem executed_covered (unambiguous : Unambiguous attempts)
    {trace : List (Event (coordinatorFace Args))} {store : Store Args} {tally : Tally Args}
    (known : Known (Planned attempts) trace store tally) {owner : Nat} {raw : StepRecord Args}
    (member : raw ∈ (attempts owner).steps)
    (covered : Covered (attempts owner).sagaId (buildStep raw) tally) :
    Executed (Planned attempts) trace (attempts owner).sagaId (started (buildStep raw)) := by
  rcases covered with committed | ⟨key, own, filled, found⟩
  · exact known.steps _ committed
  · obtain ⟨step, same, executed⟩ := known.keys _ found
    obtain ⟨other, saga, record, listed, rfl⟩ := executed.plan
    have one := unambiguous owner other saga.symm raw member record listed key filled own same
    rw [one]
    exact executed

theorem reachable_tallied {memories : Nat → Memory Args}
    {pool : Pool (coordinatorFace Args) PyError ActivityResult Nat (Progress Args) (Cluster Args)}
    (reached : (activities attempts).Reachable ⟨.empty, memories⟩ pool) :
    (∃ notes, Kept pool.shared pool.trace notes) ∧
      ∀ thread ∈ pool.threads, ∀ result, thread.program = .done result → result.success = true →
        ∃ tally, Known (Planned attempts) pool.trace pool.shared.store tally ∧
          CoversAll (attempts thread.owner).sagaId ((attempts thread.owner).steps.map buildStep)
            tally := by
  obtain ⟨marked, run, rfl⟩ := reachable_annotated reached {} Tally.note
  have sound := Setting.reachable_sound tallies_keep
    (fun owner program admitted => wp_mono (tallied_serves owner program admitted)
      (fun _ _ _ => trivial) fun _ _ _ => trivial)
    ⟨⟨fun _ member => absurd member List.not_mem_nil, fun _ _ => Nat.zero_le _⟩,
      fun _ member => absurd member List.not_mem_nil, fun _ _ found => by cases found⟩ run
  obtain ⟨journal, known, -⟩ := sound.holds
  refine ⟨⟨_, journal⟩, ?_⟩
  intro thread member result ended succeeded
  obtain ⟨seat, held, rfl⟩ := List.mem_map.mp member
  have serves := (reachable_seats steady_tallies tallied_serves trivial run).1 seat held
  have finished : seat.program = .done result := ended
  rw [Setting.Serves, finished] at serves
  exact ⟨_, known _ (List.mem_map_of_mem held), serves succeeded⟩

/-- Whatever dies, raises or comes too late, no step of a saga is executed twice
over all attempts, and an attempt that reports success speaks for one successful
execution of each of its steps. -/
theorem activity_executes_once {memories : Nat → Memory Args}
    {pool : Pool (coordinatorFace Args) PyError ActivityResult Nat (Progress Args) (Cluster Args)}
    (reached : (activities attempts).Reachable ⟨.empty, memories⟩ pool) :
    (∀ sagaId stepId, executions sagaId stepId pool.trace ≤ 1) ∧
      (Unambiguous attempts → ∀ thread ∈ pool.threads, ∀ result, thread.program = .done result →
        result.success = true → ∀ raw ∈ (attempts thread.owner).steps,
          executions (attempts thread.owner).sagaId raw.stepId pool.trace = 1 ∧
            ∃ answer, answer.succeeded = true ∧
              ⟨.outside (.execute (attempts thread.owner).sagaId (started (buildStep raw))),
                .ok answer⟩ ∈ pool.trace) := by
  obtain ⟨⟨notes, journal⟩, speaks⟩ := reachable_tallied reached
  have once : ∀ sagaId stepId, executions sagaId stepId pool.trace ≤ 1 := by
    intro sagaId stepId
    have spent := journal.spent sagaId stepId
    have capped : budget (pool.shared.store.effect? sagaId stepId) ≤ 1 := by
      unfold budget
      split
      · split <;> omega
      · omega
    omega
  refine ⟨once, ?_⟩
  intro unambiguous thread member result ended succeeded raw listed
  obtain ⟨tally, known, covers⟩ := speaks thread member result ended succeeded
  have covered := covers (buildStep raw) (List.mem_map_of_mem listed)
  obtain ⟨answer, well, event⟩ := (executed_covered unambiguous known listed covered).result
  refine ⟨le_antisymm (once _ _) ?_, answer, well, event⟩
  exact List.countP_pos_iff.mpr ⟨_, event, by simp [executes, started, buildStep]⟩

def samplePayload : ActivityPayload Unit where
  sagaId := "s"
  goal := ""
  tenantId := ""
  steps := [serializeStep (sampleStep "a" (some "k"))]

abbrev sampleActivities : Setting (coordinatorFace Unit) PyError ActivityResult Nat (Progress Unit)
    (Cluster Unit) :=
  activities fun _ => samplePayload

def attempted :
    Pool (coordinatorFace Unit) PyError ActivityResult Nat (Progress Unit) (Cluster Unit) :=
  scheduled sampleActivities (answerInCluster accepting) (fun _ _ _ _ => true)
    ⟨.empty, fun _ => .empty⟩ [(0, executeSagaActivity sampleWorker samplePayload)]
    (List.replicate 20 0)

def retried :
    Pool (coordinatorFace Unit) PyError ActivityResult Nat (Progress Unit) (Cluster Unit) :=
  (List.replicate 20 1).foldl
    (runThread sampleActivities (answerInCluster accepting) fun _ _ _ _ => true)
    { attempted with threads := attempted.threads ++
        [⟨1, executeSagaActivity sampleWorker samplePayload, {}⟩] }

theorem sample_admitted (owner : Nat) :
    sampleActivities.admits owner (executeSagaActivity sampleWorker samplePayload) :=
  ⟨sampleWorker, rfl, rfl⟩

theorem attempted_reachable :
    sampleActivities.Reachable ⟨.empty, fun _ => .empty⟩ attempted := by
  apply scheduled_reachable
  · exact answer_in_cluster_honest accepting
  · exact fun _ _ _ _ _ => trivial
  · exact List.forall_mem_singleton.mpr (sample_admitted 0)

theorem retried_run : Relation.ReflTransGen sampleActivities.Step attempted retried := by
  have spawned : sampleActivities.Step attempted { attempted with threads := attempted.threads ++
      [⟨1, executeSagaActivity sampleWorker samplePayload, {}⟩] } := .spawn (sample_admitted 1)
  exact .head spawned (run_threads_run (answer_in_cluster_honest accepting)
    (fun _ _ _ _ _ => trivial) _ _)

theorem sample_unambiguous : Unambiguous fun _ => samplePayload := by
  intro first second _ raw listed other also key _ _ _
  rw [List.mem_singleton.mp listed, List.mem_singleton.mp also]

theorem retried_executes_once : executions "s" "a" retried.trace = 1 := by
  have ended : retried.threads.getLast?.map (fun thread =>
      (thread.owner, thread.program.outcome?)) = some (1, some (.ok ⟨true, .committed⟩)) := by
    decide
  obtain ⟨⟨owner, program, noted⟩, last, same⟩ := Option.map_eq_some_iff.mp ended
  obtain ⟨rfl, outcome⟩ := Prod.mk.inj same
  have once := (activity_executes_once (Setting.reachable_run attempted_reachable retried_run)).2
    sample_unambiguous _ (List.mem_of_getLast? last) _ (Program.outcome_ended outcome) rfl _
    (List.mem_singleton.mpr rfl)
  exact once.1

end Runs

section Replays

/-- What an attempt asks for that finds every key of its payload. -/
def Replays (payload : ActivityPayload Args) : Call Args → Prop
  | .memory _ => True
  | .store (.writeTransactionState sagaId _ _) => sagaId = payload.sagaId
  | .store (.stepAlreadyCommitted sagaId key) =>
      sagaId = payload.sagaId ∧ ∃ raw ∈ payload.steps, raw.idempotencyKey = some key
  | _ => False

def misses : (request : Call Args) → Except PyError request.Answer → Bool → Bool
  | .store (.stepAlreadyCommitted ..), .ok true, missed => missed
  | .store (.stepAlreadyCommitted ..), _, _ => true
  | _, _, missed => missed

abbrev replaying (payload : ActivityPayload Args) : Machine (coordinatorFace Args) Bool :=
  @noting (coordinatorFace Args) Bool
    (fun request missed => missed = true ∨ Replays payload request) misses

/-- Every step has a key. -/
def Keyed (payload : ActivityPayload Args) : Prop :=
  ∀ raw ∈ payload.steps, ∃ key, raw.idempotencyKey = some key ∧ key ≠ ""

def AllPublished (payload : ActivityPayload Args) (store : Store Args) : Prop :=
  ∀ raw ∈ payload.steps, ∃ key, raw.idempotencyKey = some key ∧
    store.stepAlreadyCommitted payload.sagaId key = true

variable {payload : ActivityPayload Args} {missed : Bool} {Err Value : Type}
  {self : Coordinator}

theorem replays_missed (program : Program (coordinatorFace Args) Err Value) :
    wp (replaying payload) program (fun _ missed => missed = true) (fun _ missed => missed = true)
      true := by
  have permitted : ∀ request missed, True → missed = true →
      (replaying payload).allowed request missed := fun _ _ _ missed => Or.inl missed
  have kept : ∀ request before reply after, True → before = true →
      (replaying payload).step request before reply after → after = true := by
    rintro request before reply after - rfl rfl
    unfold misses
    split <;> rfl
  have ended := wp_maintains permitted kept (conforms_free (fun _ _ => trivial) program ()) rfl
  exact wp_mono ended (fun _ _ ended => ended.2) fun _ _ ended => ended.2

theorem replays_uses {program : Program (coordinatorFace Args) Err Value}
    (uses : Uses (Replays payload) program) :
    wp (replaying payload) program (fun _ _ => True) (fun _ _ => True) missed := by
  have permitted : ∀ request missed, Replays payload request → True →
      (replaying payload).allowed request missed := fun _ _ replays _ => Or.inr replays
  apply wp_mono (wp_maintains permitted (fun _ _ _ _ _ _ _ => trivial) (uses ()) trivial)
  · exact fun _ _ _ => trivial
  · exact fun _ _ _ => trivial

theorem replays_memory (request : MemoryCall Args) :
    Uses (Replays payload) (onMemory request) :=
  @conforms_perform (coordinatorFace Args) _ _ _ fun _ => trivial

theorem replays_write_status (status : SagaStatus) (metadata : Metadata Args) :
    Uses (Replays payload) (self.writeStatus payload.sagaId status metadata) :=
  conforms_ite (uses_store rfl) (conforms_pure _)

variable [DecidableEq Args] [Inhabited Args]

/-- A batch whose keys are all found skips all of its steps and succeeds. -/
theorem replays_execute_steps (journaled : self.store = .journaled) (keyed : Keyed payload)
    {steps : List (SagaStep Args)} (own : steps ⊆ payload.steps.map buildStep)
    (before : List (SagaStep Args)) :
    wp (replaying payload) (self.executeSteps payload.sagaId before steps)
      (fun success missed => missed = false → success = true) (fun _ _ => True) missed := by
  let ready (_ rest : List (SagaStep Args)) (missed : Bool) : Prop :=
    missed = true ∨ rest ⊆ payload.steps.map buildStep
  apply execute_steps_rule ready fun _ _ _ missed => missed = true
  case closes =>
    rintro before missed -
    have closing : Uses (Replays payload) (self.closeBatch payload.sagaId : Action Args Unit) :=
      conforms_bind (replays_memory _) fun _ =>
        conforms_bind (replays_write_status _ _) fun _ => replays_memory _
    exact wp_mono (replays_uses closing) (fun _ _ _ _ => rfl) fun _ _ _ => trivial
  case asks =>
    rintro before step rest missed (rfl | own)
    · apply wp_mono (replays_missed _)
      · intro skip missed known
        split
        · exact .inl known
        · exact known
      · exact fun _ _ _ => trivial
    · obtain ⟨raw, listed, rfl⟩ := List.mem_map.mp (own (List.mem_cons_self ..))
      obtain ⟨key, mine, filled⟩ := keyed raw listed
      have asked : (buildStep raw).idempotencyKey = some key := mine
      unfold alreadyCommitted
      rw [asked, if_pos ⟨by simp [truthy, filled], has_store_of_journaled journaled⟩]
      refine wp_noting (.inr ⟨rfl, raw, listed, mine⟩) (fun known => ?_) fun _ => trivial
      cases known with
      | false => rfl
      | true => exact .inr fun other member => own (List.mem_cons_of_mem _ member)
  case attempts =>
    rintro before step rest missed rfl
    apply wp_mono (replays_missed _)
    · intro outcome missed known
      cases outcome with
      | none => exact fun found => by simp [known] at found
      | some committed => exact .inl known
    · rintro fault missed rfl
      apply wp_mono (replays_missed _)
      · exact fun _ missed known found => by simp [known] at found
      · exact fun _ _ _ => trivial
  case here => exact .inr own

/-- An attempt that finds every key executes nothing and succeeds. -/
theorem replays_activity (journaled : self.store = .journaled) (keyed : Keyed payload) :
    wp (replaying payload) (executeSagaActivity self payload)
      (fun result missed => missed = false → result.success = true) (fun _ _ => True) missed := by
  have starts : Uses (Replays payload)
      (self.startTransactionLog payload.sagaId payload.goal payload.tenantId : Action Args Unit) :=
    conforms_bind (replays_memory _) fun _ => conforms_ite (conforms_raise _)
      (conforms_bind (replays_memory _) fun _ => replays_write_status _ _)
  apply activity_rule (fun _ => True) fun success missed => missed = false → success = true
  case starts => exact replays_uses starts
  case looks =>
    intro between _
    exact replays_uses (replays_memory _)
  case executes =>
    intro between _
    exact replays_execute_steps journaled keyed (List.Subset.refl _) []
  case reports =>
    intro success between ended
    exact wp_noting (.inr trivial) (fun _ _ => ended) fun _ => trivial

variable {attempts : Nat → ActivityPayload Args} {late owner : Nat}

abbrev reruns (attempts : Nat → ActivityPayload Args) : Setting (coordinatorFace Args) PyError
    ActivityResult Nat (Progress Args × Bool) (Cluster Args) :=
  (activities attempts).annotated false misses

abbrev Rerunning (attempts : Nat → ActivityPayload Args) (late owner : Nat) (request : Call Args)
    (noted : Progress Args × Bool) : Prop :=
  owner = late → noted.2 = true ∨ Replays (attempts late) request

omit [Inhabited Args] in
theorem misses_nothing {before after : Cluster Args} {request : Call Args}
    {reply : Except PyError request.Answer} (published : AllPublished payload before.store)
    (replays : Replays payload request) (served : serveInCluster owner request before reply after) :
    misses request reply false = false := by
  cases request with
  | memory request => rfl
  | store request =>
      cases request with
      | stepAlreadyCommitted sagaId key =>
          obtain ⟨rfl, raw, listed, own⟩ := replays
          obtain ⟨known, same, stored⟩ := published raw listed
          obtain rfl := Option.some.inj (own.symm.trans same)
          obtain ⟨rfl, -⟩ := served
          simp [StoreCall.serve, stored, misses]
      | _ => rfl
  | outside request => rfl

theorem reruns_keep : SeatInvariant (reruns attempts) (Rerunning attempts late)
    fun cluster seats => AllPublished (attempts late) cluster.store ∧
      ∀ seat ∈ seats, seat.1 = late → seat.2.2 = false where
  spawned := by
    rintro shared seats owner program ⟨published, found⟩ -
    refine ⟨published, List.forall_mem_append.mpr ⟨found, ?_⟩⟩
    exact List.forall_mem_singleton.mpr fun _ => rfl
  called := by
    rintro shared after left right noted owner request reply ⟨published, found⟩ here - served
    constructor
    · intro raw listed
      obtain ⟨key, own, stored⟩ := published raw listed
      exact ⟨key, own, published_call served stored⟩
    · have clean := found _ List.mem_append_cons_self
      apply Setting.every_replaced found
      intro own
      have unmissed : noted.2 = false := clean own
      rcases here own with missed | replays
      · rw [unmissed] at missed
        cases missed
      · change misses request reply noted.2 = false
        rw [unmissed]
        exact misses_nothing published replays served
  crashed := by
    rintro shared after seats owner ⟨published, found⟩ rfl
    exact ⟨published, fun seat member => found seat (List.mem_filter.mp member).1⟩

abbrev Reruns (attempts : Nat → ActivityPayload Args) (late : Nat)
    (thread : Thread (coordinatorFace Args) PyError ActivityResult Nat (Progress Args × Bool)) :
    Prop :=
  (reruns attempts).Serves (Rerunning attempts late)
    (fun owner result noted => owner = late → noted.2 = false → result.success = true)
    (fun _ _ _ => True) thread

theorem reruns_others (other : owner ≠ late) (program : Action Args ActivityResult)
    (noted : Progress Args × Bool) : Reruns attempts late ⟨owner, program, noted⟩ := by
  have free : Conforms ((reruns attempts).discipline (Rerunning attempts late owner)) program :=
    conforms_free (fun _ _ own => absurd own other) program
  exact wp_mono (free noted) (fun _ _ _ own => absurd own other) fun _ _ _ => trivial

theorem reruns_serve (keyed : Keyed (attempts late)) (owner : Nat)
    (program : Action Args ActivityResult) (admitted : (reruns attempts).admits owner program) :
    Reruns attempts late ⟨owner, program, (reruns attempts).start⟩ := by
  by_cases own : owner = late
  · subst own
    obtain ⟨self, journaled, rfl⟩ := admitted
    have anything : (activities attempts).Obeys (fun _ _ => True)
        (executeSagaActivity self (attempts owner)) (activities attempts).start :=
      conforms_free (fun _ _ => trivial) _ _
    have both : wp ((reruns attempts).discipline fun request noted =>
          True ∧ (noted.2 = true ∨ Replays (attempts owner) request))
        (executeSagaActivity self (attempts owner))
        (fun result noted => noted.2 = false → result.success = true) (fun _ _ => True)
        (reruns attempts).start := wp_annotated anything (replays_activity journaled keyed)
    have narrower : ∀ request (noted : Progress Args × Bool),
        True ∧ (noted.2 = true ∨ Replays (attempts owner) request) →
          Rerunning attempts owner owner request noted := fun _ _ permitted _ => permitted.2
    apply wp_mono (wp_guard_mono narrower both)
    · exact fun _ _ succeeds _ => succeeds
    · exact fun _ _ _ => trivial
  · exact reruns_others own program _

/-- Once an attempt has reported success on steps that all have keys, every later
attempt at the same payload only asks for the keys and writes the status of the
saga, whatever the others do meanwhile, and reports success if it ends. -/
theorem retry_changes_nothing {memories : Nat → Memory Args}
    {pool last : Pool (coordinatorFace Args) PyError ActivityResult Nat (Progress Args)
      (Cluster Args)}
    (reached : (activities attempts).Reachable ⟨.empty, memories⟩ pool)
    {thread : Thread (coordinatorFace Args) PyError ActivityResult Nat (Progress Args)}
    (member : thread ∈ pool.threads) {result : ActivityResult}
    (ended : thread.program = .done result) (succeeded : result.success = true)
    (keyed : Keyed (attempts thread.owner)) (same : attempts late = attempts thread.owner)
    (fresh : ∀ other ∈ pool.threads, other.owner ≠ late)
    (run : Relation.ReflTransGen (activities attempts).Step pool last) :
    ∀ retry ∈ last.threads, retry.owner = late →
      (∀ request next, retry.program = .call request next → Replays (attempts late) request) ∧
        ∀ result, retry.program = .done result → result.success = true := by
  obtain ⟨tally, known, covers⟩ :=
    (reachable_tallied reached).2 thread member result ended succeeded
  rw [← same] at keyed covers
  have published : AllPublished (attempts late) pool.shared.store := by
    intro raw listed
    obtain ⟨key, own, filled⟩ := keyed raw listed
    rcases covers (buildStep raw) (List.mem_map_of_mem listed) with
      committed | ⟨name, mine, _, found⟩
    · exact ⟨key, own, known.stored _ committed key own filled⟩
    · exact ⟨name, mine, known.found _ found⟩
  have again : ∃ next, Relation.ReflTransGen (reruns attempts).Step (pool.marked false) next ∧
      next.plain = last := run_annotated run (plain_marked pool false)
  obtain ⟨marked, moved, rfl⟩ := again
  have others : ∀ seat ∈ (pool.marked false).threads, Reruns attempts late seat := by
    intro seat held
    obtain ⟨other, listed, rfl⟩ := List.mem_map.mp held
    exact reruns_others (fresh other listed) _ _
  have absent : ∀ seat ∈ (pool.marked false).threads.map Thread.seat,
      seat.1 = late → seat.2.2 = false := by
    intro seat held own
    obtain ⟨thread, listed, rfl⟩ := List.mem_map.mp held
    obtain ⟨other, earlier, rfl⟩ := List.mem_map.mp listed
    exact absurd own (fresh other earlier)
  obtain ⟨serving, -, found⟩ :=
    run_seats reruns_keep (reruns_serve keyed) others ⟨published, absent⟩ moved
  intro retry held own
  obtain ⟨seat, listed, rfl⟩ := List.mem_map.mp held
  have serves := serving seat listed
  have clean : seat.noted.2 = false := found _ (List.mem_map_of_mem listed) own
  constructor
  · intro request next calls
    have shape : seat.program = .call request next := calls
    rw [Setting.Serves, shape] at serves
    rcases serves.1 own with missed | replays
    · rw [clean] at missed
      cases missed
    · exact replays
  · intro result finished
    have shape : seat.program = .done result := finished
    rw [Setting.Serves, shape] at serves
    exact serves own clean

theorem retried_changes_nothing : ∃ retry ∈ retried.threads, retry.owner = 1 ∧
    (∀ request next, retry.program = .call request next → Replays samplePayload request) ∧
      ∀ result, retry.program = .done result → result.success = true := by
  have first : attempted.threads.head?.map (fun thread =>
      (thread.owner, thread.program.outcome?)) = some (0, some (.ok ⟨true, .committed⟩)) := by
    decide
  obtain ⟨⟨owner, program, noted⟩, head, same⟩ := Option.map_eq_some_iff.mp first
  obtain ⟨rfl, outcome⟩ := Prod.mk.inj same
  have keyed : Keyed samplePayload := by
    intro raw listed
    rw [List.mem_singleton.mp listed]
    exact ⟨"k", rfl, by decide⟩
  have fresh : ∀ other ∈ attempted.threads, other.owner ≠ 1 := by decide
  obtain ⟨retry, listed, own⟩ : ∃ retry ∈ retried.threads, retry.owner = 1 := by decide
  exact ⟨retry, listed, own, retry_changes_nothing attempted_reachable (List.mem_of_head? head)
    (Program.outcome_ended outcome) rfl keyed rfl fresh retried_run retry listed own⟩

end Replays

end SagaMind.TemporalWorker
