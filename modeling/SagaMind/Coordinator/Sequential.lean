import SagaMind.Foundation.Triple
import SagaMind.Coordinator.Recover

/-!
# One coordinator at a time

The state of a deployment in which one coordinator runs: the store, its memory
and the outside. Memory and store calls are answered by their functions. The
outside answers as it is assumed to, and may watch the store calls go by.
-/

namespace SagaMind

open CallProgram KeyedTable

set_option autoImplicit false

variable {Args World Value : Type}

/-- How the verifier and the sandbox behave, and what an observer notes of the
store calls. -/
structure Outside (Args World : Type) where
  respond : (request : OutsideCall Args) → World → Except PyError request.Answer → World → Prop
  observe : (request : StoreCall Args) → Except PyError request.Answer → World → World

structure System (Args World : Type) where
  store : Store Args
  memory : Memory Args
  world : World

def afterStore [DecidableEq Args] (outside : Outside Args World) (request : StoreCall Args)
    (before : System Args World) : System Args World :=
  { before with
    store := (request.serve before.store).2
    world := outside.observe request (request.serve before.store).1 before.world }

def serveCall [DecidableEq Args] (outside : Outside Args World) : (request : Call Args) →
    System Args World → Except PyError request.Answer → System Args World → Prop
  | .memory request, before, reply, after =>
      reply = .ok (request.serve before.memory).1 ∧
        after = { before with memory := (request.serve before.memory).2 }
  | .store request, before, reply, after =>
      reply = (request.serve before.store).1 ∧ after = afterStore outside request before
  | .outside request, before, reply, after =>
      ∃ world, outside.respond request before.world reply world ∧ after = { before with world }

/-- The coordinator's calls on a system; `inv` is what must hold wherever a
crash may cut the run. -/
def machine [DecidableEq Args] (outside : Outside Args World)
    (inv : System Args World → Prop) : Machine (coordinatorFace Args) (System Args World) where
  allowed := fun _ => inv
  step := serveCall outside

def Serves [DecidableEq Args] (outside : Outside Args World)
    (served : Machine (coordinatorFace Args) (System Args World)) : Prop :=
  ∀ {request before reply after}, served.step request before reply after →
    serveCall outside request before reply after

def answerWith [DecidableEq Args] (outside : Outside Args World)
    (outcome : (request : OutsideCall Args) → World → Except PyError request.Answer × World) :
    (request : Call Args) → System Args World →
      Except PyError request.Answer × System Args World
  | .memory request, state =>
      (.ok (request.serve state.memory).1,
        { state with memory := (request.serve state.memory).2 })
  | .store request, state => ((request.serve state.store).1, afterStore outside request state)
  | .outside request, state =>
      ((outcome request state.world).1, { state with world := (outcome request state.world).2 })

theorem answer_with_honest [DecidableEq Args] {outside : Outside Args World}
    {outcome : (request : OutsideCall Args) → World → Except PyError request.Answer × World}
    (honest : ∀ request world,
      outside.respond request world (outcome request world).1 (outcome request world).2)
    (request : Call Args) (state : System Args World) :
    serveCall outside request state (answerWith outside outcome request state).1
      (answerWith outside outcome request state).2 := by
  cases request with
  | memory request => exact ⟨rfl, rfl⟩
  | store request => exact ⟨rfl, rfl⟩
  | outside request => exact ⟨_, honest request state.world, rfl⟩

section Rules

variable [DecidableEq Args] {outside : Outside Args World} {inv : System Args World → Prop}

@[simp] theorem wp_on_memory (request : MemoryCall Args)
    (post : request.Answer → System Args World → Prop)
    (failed : PyError → System Args World → Prop) (state : System Args World) :
    wp (machine outside inv) (onMemory request) post failed state ↔
      inv state ∧ post (request.serve state.memory).1
        { state with memory := (request.serve state.memory).2 } := by
  rw [onMemory, wp_perform]
  refine and_congr_right fun _ => ⟨fun run => run _ _ ⟨rfl, rfl⟩, ?_⟩
  rintro run reply after ⟨rfl, rfl⟩
  exact run

theorem wp_memory {request : MemoryCall Args} {post : request.Answer → System Args World → Prop}
    {failed : PyError → System Args World → Prop} {state : System Args World} (here : inv state)
    (done : post (request.serve state.memory).1
      { state with memory := (request.serve state.memory).2 }) :
    wp (machine outside inv) (onMemory request) post failed state :=
  (wp_on_memory _ _ _ _).mpr ⟨here, done⟩

theorem wp_on_store (request : StoreCall Args)
    (post : request.Answer → System Args World → Prop)
    (failed : PyError → System Args World → Prop) (state : System Args World) :
    wp (machine outside inv) (onStore request) post failed state ↔
      inv state ∧
        replied (post · (afterStore outside request state))
          (failed · (afterStore outside request state)) (request.serve state.store).1 := by
  rw [onStore, wp_perform]
  refine and_congr_right fun _ => ⟨fun run => run _ _ ⟨rfl, rfl⟩, ?_⟩
  rintro run reply after ⟨rfl, rfl⟩
  exact run

theorem wp_on_outside (request : OutsideCall Args)
    (post : request.Answer → System Args World → Prop)
    (failed : PyError → System Args World → Prop) (state : System Args World) :
    wp (machine outside inv) (onOutside request) post failed state ↔
      inv state ∧ ∀ reply world, outside.respond request state.world reply world →
        replied (post · { state with world }) (failed · { state with world }) reply := by
  rw [onOutside, wp_perform]
  refine and_congr_right fun _ => ⟨fun run reply world answered => ?_, ?_⟩
  · exact run reply _ ⟨world, answered, rfl⟩
  · rintro run reply after ⟨world, answered, rfl⟩
    exact run reply world answered

omit [DecidableEq Args] in
@[simp] theorem wp_flagged {State : Type} {served : Machine (coordinatorFace Args) State}
    (journaled executionAmbiguous : Bool) (action : Action Args Value)
    (post : Value → State → Prop) (failed : StepFault → State → Prop) (state : State) :
    wp served (flagged journaled executionAmbiguous action) post failed state ↔
      wp served action post (fun error => failed { error, journaled, executionAmbiguous })
        state := by
  rw [flagged, wp_attempt]
  rfl

/-- The system after a store call that left `store` and replied `reply`. -/
abbrev System.stored (outside : Outside Args World) (state : System Args World)
    (store : Store Args) (request : StoreCall Args) (reply : Except PyError request.Answer) :
    System Args World :=
  { state with store, world := outside.observe request reply state.world }

theorem wp_write_state {sagaId : String} {status : SagaStatus} {metadata : Metadata Args}
    {post : Unit → System Args World → Prop} {failed : PyError → System Args World → Prop}
    {state : System Args World} (here : inv state)
    (done : post () (state.stored outside
      (state.store.writeTransactionState sagaId status metadata)
      (.writeTransactionState sagaId status metadata) (.ok ()))) :
    wp (machine outside inv) (onStore (.writeTransactionState sagaId status metadata)) post failed
      state :=
  (wp_on_store _ _ _ _).mpr ⟨here, done⟩

theorem wp_push_dead_letter {sagaId stepName error : String}
    {post : Unit → System Args World → Prop} {failed : PyError → System Args World → Prop}
    {state : System Args World} (here : inv state)
    (done : post () (state.stored outside (state.store.pushDeadLetter sagaId stepName error)
      (.pushDeadLetter sagaId stepName error) (.ok ()))) :
    wp (machine outside inv) (onStore (.pushDeadLetter sagaId stepName error)) post failed
      state :=
  (wp_on_store _ _ _ _).mpr ⟨here, done⟩

theorem wp_record_step {sagaId : String} {entry : HistoryEntry Args}
    {post : Unit → System Args World → Prop} {failed : PyError → System Args World → Prop}
    {state : System Args World} (here : inv state)
    (done : post () (state.stored outside (state.store.recordStep sagaId entry)
      (.recordStep sagaId entry) (.ok ()))) :
    wp (machine outside inv) (onStore (.recordStep sagaId entry)) post failed state :=
  (wp_on_store _ _ _ _).mpr ⟨here, done⟩

theorem wp_get_effect {sagaId stepId : String}
    {post : Effect Args → System Args World → Prop}
    {failed : PyError → System Args World → Prop} {state : System Args World} (here : inv state)
    (found : ∀ effect, state.store.effect? sagaId stepId = some effect →
      post effect (state.stored outside state.store (.getEffect sagaId stepId) (.ok effect)))
    (unknown : ∀ error, state.store.effect? sagaId stepId = none →
      failed error (state.stored outside state.store (.getEffect sagaId stepId)
        (.error error))) :
    wp (machine outside inv) (onStore (.getEffect sagaId stepId)) post failed state := by
  refine (wp_on_store _ _ _ _).mpr ⟨here, ?_⟩
  simp only [StoreCall.serve, Store.getEffect, afterStore]
  cases entry : state.store.effect? sagaId stepId with
  | none => exact unknown _ entry
  | some effect => exact found effect entry

theorem wp_transition {sagaId stepId : String} {expected : List EffectState}
    {newState : EffectState} {result : Option Args} {error : Option String}
    {post : Effect Args → System Args World → Prop}
    {failed : PyError → System Args World → Prop} {state : System Args World} (here : inv state)
    (moved : ∀ entry, state.store.effect? sagaId stepId = some entry → entry.state ∈ expected →
      post { entry with state := newState, result, error }
        (state.stored outside
          (state.store.putEffect sagaId { entry with state := newState, result, error })
          (.transitionEffect sagaId stepId expected newState result error)
          (.ok { entry with state := newState, result, error })))
    (refused : ∀ refusal,
      (∀ entry, state.store.effect? sagaId stepId = some entry → entry.state ∉ expected) →
      failed refusal (state.stored outside state.store
        (.transitionEffect sagaId stepId expected newState result error) (.error refusal))) :
    wp (machine outside inv)
      (onStore (.transitionEffect sagaId stepId expected newState result error)) post failed
      state := by
  refine (wp_on_store _ _ _ _).mpr ⟨here, ?_⟩
  simp only [StoreCall.serve, afterStore]
  rcases state.store.transition_effect_cases sagaId stepId expected newState result error with
    ⟨entry, found, legal, same⟩ | ⟨illegal, refusal, same⟩
  · rw [same]
    exact moved entry found legal
  · rw [same]
    exact refused refusal illegal

theorem wp_commit {sagaId stepId : String} {key : Option String}
    {post : Effect Args → System Args World → Prop}
    {failed : PyError → System Args World → Prop} {state : System Args World} (here : inv state)
    (moved : ∀ entry, state.store.effect? sagaId stepId = some entry → entry.state = .applied →
      post { entry with state := .committed }
        (state.stored outside
          ((state.store.putEffect sagaId { entry with state := .committed }).publish sagaId key)
          (.commitEffect sagaId stepId key) (.ok { entry with state := .committed })))
    (refused : ∀ refusal,
      (∀ entry, state.store.effect? sagaId stepId = some entry → entry.state ≠ .applied) →
      failed refusal (state.stored outside state.store (.commitEffect sagaId stepId key)
        (.error refusal))) :
    wp (machine outside inv) (onStore (.commitEffect sagaId stepId key)) post failed state := by
  refine (wp_on_store _ _ _ _).mpr ⟨here, ?_⟩
  simp only [StoreCall.serve, afterStore]
  rcases state.store.commit_effect_cases sagaId stepId key with
    ⟨entry, found, legal, same⟩ | ⟨illegal, refusal, same⟩
  · rw [same]
    exact moved entry found legal
  · rw [same]
    exact refused refusal illegal

theorem wp_prepare {sagaId stepId stepName : String} {action compensation : ActionPayload Args}
    {key : Option String} {post : Effect Args → System Args World → Prop}
    {failed : PyError → System Args World → Prop} {state : System Args World} (here : inv state)
    (known : ∀ existing, state.store.effect? sagaId stepId = some existing →
      Store.sameEffect existing stepName action compensation key = true →
      post existing (state.stored outside state.store
        (.prepareEffect sagaId stepId stepName action compensation key) (.ok existing)))
    (fresh : ∀ entry : Effect Args, state.store.effect? sagaId stepId = none →
      entry = { sagaId, stepId, stepName, action, compensation
                idempotencyKey := key
                seq := (state.store.effects sagaId).rows.length + 1
                state := .prepared, result := none, error := none } →
      post entry (state.stored outside (state.store.putEffect sagaId entry)
        (.prepareEffect sagaId stepId stepName action compensation key) (.ok entry)))
    (refused : ∀ refusal, failed refusal (state.stored outside state.store
      (.prepareEffect sagaId stepId stepName action compensation key) (.error refusal))) :
    wp (machine outside inv)
      (onStore (.prepareEffect sagaId stepId stepName action compensation key)) post failed
      state := by
  refine (wp_on_store _ _ _ _).mpr ⟨here, ?_⟩
  simp only [StoreCall.serve, afterStore]
  rcases state.store.prepare_effect_cases sagaId stepId stepName action compensation key with
    ⟨existing, found, agrees, same⟩ | ⟨refusal, same⟩ | ⟨entry, absent, shape, same⟩
  · rw [same]
    exact known existing found agrees
  · rw [same]
    exact refused refusal
  · rw [same]
    exact fresh entry absent shape

theorem wp_prepare_new {sagaId stepId stepName : String} {action compensation : ActionPayload Args}
    {key : Option String} {post : Effect Args → System Args World → Prop}
    {failed : PyError → System Args World → Prop} {state : System Args World} (here : inv state)
    (unknown : state.store.effect? sagaId stepId = none)
    (done : ∀ entry : Effect Args,
      entry = { sagaId, stepId, stepName, action, compensation
                idempotencyKey := key
                seq := (state.store.effects sagaId).rows.length + 1
                state := .prepared, result := none, error := none } →
      post entry (state.stored outside (state.store.putEffect sagaId entry)
        (.prepareEffect sagaId stepId stepName action compensation key) (.ok entry))) :
    wp (machine outside inv)
      (onStore (.prepareEffect sagaId stepId stepName action compensation key)) post failed
      state := by
  refine (wp_on_store _ _ _ _).mpr ⟨here, ?_⟩
  simp only [StoreCall.serve, afterStore, Store.prepareEffect, unknown]
  exact done _ rfl

theorem wp_outside {request : OutsideCall Args}
    {post : request.Answer → System Args World → Prop}
    {failed : PyError → System Args World → Prop} {state : System Args World} (here : inv state)
    (answered : ∀ answer world, outside.respond request state.world (.ok answer) world →
      post answer { state with world })
    (raised : ∀ error world, outside.respond request state.world (.error error) world →
      failed error { state with world }) :
    wp (machine outside inv) (onOutside request) post failed state := by
  refine (wp_on_outside _ _ _ _).mpr ⟨here, fun reply world response => ?_⟩
  cases reply with
  | ok answer => exact answered answer world response
  | error error => exact raised error world response

end Rules

section Served

variable [DecidableEq Args] {outside : Outside Args World}
  {served : Machine (coordinatorFace Args) (System Args World)} {state : System Args World}
  {failed : PyError → System Args World → Prop}

/-- Machines that answer as the functions do, under any obligation on calls. -/
theorem wp_served_memory (serves : Serves outside served) {request : MemoryCall Args}
    {post : request.Answer → System Args World → Prop}
    (allowed : served.allowed (.memory request) state)
    (done : post (request.serve state.memory).1
      { state with memory := (request.serve state.memory).2 }) :
    wp served (onMemory request) post failed state := by
  rw [onMemory, wp_perform]
  refine ⟨allowed, ?_⟩
  intro reply after taken
  obtain ⟨rfl, rfl⟩ := serves taken
  exact done

theorem wp_served_store (serves : Serves outside served) {request : StoreCall Args}
    {post : request.Answer → System Args World → Prop}
    (allowed : served.allowed (.store request) state)
    (done : replied (post · (afterStore outside request state))
      (failed · (afterStore outside request state)) (request.serve state.store).1) :
    wp served (onStore request) post failed state := by
  rw [onStore, wp_perform]
  refine ⟨allowed, ?_⟩
  intro reply after taken
  obtain ⟨rfl, rfl⟩ := serves taken
  exact done

end Served

end SagaMind
