import SagaMind.Coordinator.Cluster
import SagaMind.Coordinator.Outline
import SagaMind.Foundation.Lives

/-!
# The life of one deployment

Operators make calls of one coordinator, one after another. A crash takes its
memory, and the coordinator that comes back works on the same store. Each call
on a saga first looks the saga up and turns away there, or goes in.
-/

namespace SagaMind

open CallProgram KeyedTable Coordinator

set_option autoImplicit false

variable {Args World : Type}

def ApiCall.enters (memory : Memory Args) : ApiCall Args → Bool
  | .start sagaId _ _ => (memory.active.find? sagaId).isNone
  | .execute sagaId _ => (memory.active.find? sagaId).isSome
  | .resume sagaId => (memory.active.find? sagaId).any fun saga =>
      saga.status = .awaitingApproval ∧ !saga.pendingSteps.isEmpty
  | .reject sagaId => (memory.active.find? sagaId).any fun saga => saga.status = .awaitingApproval
  | .recover => true

namespace Coordinator

def openSaga (self : Coordinator) (sagaId goal tenantId : String) : Action Args Unit := do
  onMemory (.registerSaga { sagaId, tenantId, goal, status := .running })
  self.writeStatus sagaId .running { goal := some goal, tenantId := some tenantId }

def takePending (self : Coordinator) (sagaId : String) : Action Args Unit := do
  onMemory (.setPending sagaId [])
  onMemory (.setStatus sagaId .running)
  self.writeStatus sagaId .running { pendingSteps := some [] }

def dropPending (self : Coordinator) (sagaId : String) : Action Args Unit := do
  onMemory (.setPending sagaId [])
  self.writeStatus sagaId .compensating { pendingSteps := some [] }

end Coordinator

section Entrances

variable [Inhabited Args] {served : Machine (coordinatorFace Args) (System Args World)}
  {worker : Coordinator} {sagaId : String}

def Entrance (outline : Outline served worker sagaId) (state : System Args World) :
    ApiCall Args → Prop
  | .start _ goal tenantId => wp served (worker.openSaga sagaId goal tenantId)
      (fun _ => outline.finished) (fun _ => outline.finished) state
  | .execute _ steps => outline.working state ∧ outline.queue steps
  | .resume _ => ∀ saga, state.memory.active.find? sagaId = some saga →
      outline.queue (approveFirst saga.pendingSteps) ∧
      wp served (worker.takePending sagaId) (fun _ => outline.working) (fun _ => outline.finished) state
  | .reject _ =>
      wp served (worker.dropPending sagaId) (fun _ => outline.falling) (fun _ => outline.finished) state
  | .recover => True

variable [DecidableEq Args] {outside : Outside Args World} {state : System Args World}

abbrev LooksUp (served : Machine (coordinatorFace Args) (System Args World)) : Prop :=
  ∀ {sagaId before reply after}, served.step (.memory (.lookupSaga sagaId)) before reply after →
    reply = .ok (before.memory.active.find? sagaId) ∧ after = before

omit [DecidableEq Args] [Inhabited Args] in
theorem wp_lookup (serves : LooksUp served)
    (looks : served.allowed (.memory (.lookupSaga sagaId)) state)
    {post : Option (SagaTransaction Args) → System Args World → Prop}
    {failed : PyError → System Args World → Prop}
    (done : post (state.memory.active.find? sagaId) state) :
    wp served (onMemory (.lookupSaga sagaId)) post failed state := by
  rw [onMemory, wp_perform]
  refine ⟨looks, ?_⟩
  intro reply after taken
  obtain ⟨rfl, rfl⟩ := serves taken
  exact done

theorem Outline.execute_saga (outline : Outline served worker sagaId) (serves : LooksUp served)
    (looks : ∀ {state}, outline.finished state → served.allowed (.memory (.lookupSaga sagaId)) state)
    {steps : List (SagaStep Args)} (finished : outline.finished state)
    (enter : (state.memory.active.find? sagaId).isSome = true →
      outline.working state ∧ outline.queue steps) :
    wp served (worker.executeSaga sagaId steps) (fun _ => outline.finished) (fun _ => outline.finished)
      state := by
  unfold executeSaga
  rw [wp_bind]
  apply wp_lookup serves (looks finished)
  rw [wp_ite]
  split
  · rename_i known
    obtain ⟨working, queue⟩ := enter known
    apply outline.execute_steps _ _ _ queue working
    exact fun step member => absurd member List.not_mem_nil
  · exact finished

/-- A call on the saga turns away at its entry or follows the outline. -/
theorem Outline.request (outline : Outline served worker sagaId) (serves : LooksUp served)
    (looks : ∀ {state}, outline.finished state → served.allowed (.memory (.lookupSaga sagaId)) state)
    {request : ApiCall Args} (own : request.sagaId? = some sagaId) (finished : outline.finished state)
    (enter : request.enters state.memory = true → Entrance outline state request) :
    wp served (request.program worker) (fun _ => outline.finished) (fun _ => outline.finished) state := by
  cases request with
  | start owner goal tenantId =>
      obtain rfl := Option.some.inj own
      unfold ApiCall.program startTransactionLog
      rw [wp_bind]
      apply wp_lookup serves (looks finished)
      rw [wp_ite]
      split
      · exact finished
      · rename_i unknown
        apply enter
        rw [ApiCall.enters, Option.isNone_iff_eq_none]
        simpa using unknown
  | execute owner steps =>
      obtain rfl := Option.some.inj own
      unfold ApiCall.program
      rw [wp_void]
      exact outline.execute_saga serves looks finished fun known => enter known
  | resume owner =>
      obtain rfl := Option.some.inj own
      unfold ApiCall.program resumeAfterApproval
      rw [wp_void, wp_bind]
      apply wp_lookup serves (looks finished)
      split
      · exact finished
      · rename_i saga found
        rw [wp_ite]
        split
        · exact finished
        · rename_i awaits
          rw [not_or, not_not] at awaits
          have entered := enter (by simp [ApiCall.enters, found, awaits])
          obtain ⟨queue, prelude⟩ := entered saga found
          unfold takePending at prelude
          rw [wp_bind] at prelude ⊢
          apply wp_mono prelude
          · intro _ between prelude
            rw [wp_bind] at prelude ⊢
            apply wp_mono prelude
            · intro _ between prelude
              apply wp_seq prelude
              intro _ between working
              exact outline.execute_saga serves looks (outline.ends working)
                fun _ => ⟨working, queue⟩
            · exact fun _ _ finished => finished
          · exact fun _ _ finished => finished
  | reject owner =>
      obtain rfl := Option.some.inj own
      unfold ApiCall.program rejectPending
      rw [wp_void, wp_bind]
      apply wp_lookup serves (looks finished)
      split
      · exact finished
      · rename_i saga found
        rw [wp_ite]
        split
        · exact finished
        · rename_i awaits
          rw [not_not] at awaits
          have entered : (ApiCall.reject owner).enters state.memory = true := by
            simp [ApiCall.enters, found, awaits]
          have prelude : wp served (worker.dropPending owner) (fun _ => outline.falling)
            (fun _ => outline.finished) state := enter entered
          unfold dropPending at prelude
          rw [wp_bind] at prelude ⊢
          apply wp_mono prelude
          · intro _ between prelude
            apply wp_seq prelude
            intro _ between falling
            rw [wp_bind]
            apply wp_mono (outline.execute_compensations falling)
            · exact fun _ _ undone => outline.rests undone
            · exact fun _ _ broken => outline.leaves broken
          · exact fun _ _ finished => finished
  | recover => cases own

end Entrances

section Checks

variable [DecidableEq Args] {outside : Outside Args World} {sagaId : String}
  {state : System Args World} {Value : Type}

abbrev serving (outside : Outside Args World) : Machine (coordinatorFace Args) (System Args World) :=
  machine outside fun _ => True

theorem steps_memory (request : MemoryCall Args) (rest : request.Answer → Action Args Value) :
    Steps (serving outside) (onMemory request >>= rest) state (rest (request.serve state.memory).1)
      { state with memory := (request.serve state.memory).2 } := by
  have taken : (serving outside).step (.memory request) state
      (.ok (request.serve state.memory).1)
      { state with memory := (request.serve state.memory).2 } := ⟨rfl, rfl⟩
  exact .answered taken rest

theorem steps_lookup {found : Option (SagaTransaction Args)}
    (held : state.memory.active.find? sagaId = found)
    (rest : Option (SagaTransaction Args) → Action Args Value) :
    Steps (serving outside) (onMemory (.lookupSaga sagaId) >>= rest) state (rest found) state := by
  rw [← held]
  exact steps_memory (.lookupSaga sagaId) rest

theorem steps_write_status (self : Coordinator) (status : SagaStatus) (metadata : Metadata Args)
    (rest : Unit → Action Args Value) :
    ∃ after, after.memory = state.memory ∧
      Steps (serving outside) (self.writeStatus sagaId status metadata >>= rest) state (rest ()) after := by
  unfold writeStatus
  split
  · have taken : (serving outside).step
        (.store (.writeTransactionState sagaId status metadata)) state (.ok ())
        (afterStore outside (.writeTransactionState sagaId status metadata) state) := ⟨rfl, rfl⟩
    exact ⟨afterStore outside _ state, rfl, .answered taken rest⟩
  · exact ⟨_, rfl, .here⟩

variable [Inhabited Args]

/-- A call that does not pass its check raises before anything is changed. -/
theorem turned_away (self : Coordinator) {request : ApiCall Args}
    (closed : request.enters state.memory = false) :
    ∃ error, Steps (serving outside) (request.program self) state (.raise error) state := by
  cases request with
  | start sagaId goal tenantId =>
      cases held : state.memory.active.find? sagaId with
      | none => simp [ApiCall.enters, held] at closed
      | some saga => exact ⟨_, steps_lookup held _⟩
  | execute sagaId steps =>
      cases held : state.memory.active.find? sagaId with
      | some saga => simp [ApiCall.enters, held] at closed
      | none =>
          have raised : Steps (serving outside) (self.executeSaga sagaId steps) state _ state :=
            steps_lookup held _
          exact ⟨_, raised.bind _⟩
  | resume sagaId =>
      have looked : Steps (serving outside) (self.resumeAfterApproval sagaId) state _ state :=
        steps_lookup rfl _
      cases held : state.memory.active.find? sagaId with
      | none =>
          rw [held] at looked
          exact ⟨_, looked.bind _⟩
      | some saga =>
          rw [held] at looked
          dsimp only at looked
          rw [if_pos (by simpa [ApiCall.enters, held, imp_iff_not_or] using closed)] at looked
          exact ⟨_, looked.bind _⟩
  | reject sagaId =>
      have looked : Steps (serving outside) (self.rejectPending sagaId) state _ state :=
        steps_lookup rfl _
      cases held : state.memory.active.find? sagaId with
      | none =>
          rw [held] at looked
          exact ⟨_, looked.bind _⟩
      | some saga =>
          rw [held] at looked
          dsimp only at looked
          rw [if_pos (by simpa [ApiCall.enters, held] using closed)] at looked
          exact ⟨_, looked.bind _⟩
  | recover => cases closed

/-- An approval that passes its check comes to the loop over what waits. -/
theorem resume_goes_in (self : Coordinator)
    (enters : (ApiCall.resume sagaId).enters state.memory = true) :
    ∃ saga after, state.memory.active.find? sagaId = some saga ∧
      Steps (serving outside) (self.resumeAfterApproval sagaId) state
        (self.executeSteps sagaId [] (approveFirst saga.pendingSteps)) after := by
  cases held : state.memory.active.find? sagaId with
  | none => simp [ApiCall.enters, held] at enters
  | some saga =>
      have looked : Steps (serving outside) (self.resumeAfterApproval sagaId) state _ state :=
        steps_lookup held _
      have awaits : ¬(saga.status ≠ .awaitingApproval ∨ saga.pendingSteps = []) := by
        simpa [ApiCall.enters, held] using enters
      dsimp only at looked
      rw [if_neg awaits] at looked
      have cleared := looked.trans (steps_memory (.setPending sagaId []) _)
      have running := cleared.trans (steps_memory (.setStatus sagaId .running) _)
      obtain ⟨between, same, written⟩ := @steps_write_status _ _ _ outside sagaId
        { state with memory := ((MemoryCall.setStatus sagaId .running).serve
          ((MemoryCall.setPending sagaId []).serve state.memory).2).2 } _ self .running
        { pendingSteps := some [] } fun _ => self.executeSaga sagaId (approveFirst saga.pendingSteps)
      have active : ∃ later, between.memory.active.find? sagaId = some later := by
        rw [same]
        exact ⟨_, Memory.find_amend (Memory.find_amend held rfl) rfl⟩
      obtain ⟨later, found⟩ := active
      have arrived : Steps (serving outside)
          (self.executeSaga sagaId (approveFirst saga.pendingSteps)) between _ between :=
        steps_lookup found _
      exact ⟨saga, between, rfl, (running.trans written).trans arrived⟩

omit [Inhabited Args] in
theorem reject_goes_in (self : Coordinator)
    (enters : (ApiCall.reject sagaId : ApiCall Args).enters state.memory = true) :
    ∃ after, Steps (serving outside) (self.rejectPending sagaId) state (do
      self.executeCompensations sagaId (completedSteps sagaId)
      pure true) after := by
  cases held : state.memory.active.find? sagaId with
  | none => simp [ApiCall.enters, held] at enters
  | some saga =>
      have looked : Steps (serving outside) (self.rejectPending sagaId) state _ state :=
        steps_lookup held _
      have awaits : ¬saga.status ≠ .awaitingApproval := by
        simpa [ApiCall.enters, held] using enters
      dsimp only at looked
      rw [if_neg awaits] at looked
      have cleared := looked.trans (steps_memory (.setPending sagaId []) _)
      obtain ⟨between, -, written⟩ := @steps_write_status _ _ _ outside sagaId
        { state with memory := ((MemoryCall.setPending sagaId []).serve state.memory).2 } _ self
        .compensating { pendingSteps := some [] } fun _ => do
          self.executeCompensations sagaId (completedSteps sagaId)
          pure true
      exact ⟨between, cleared.trans written⟩

end Checks

section Lifetimes

variable [DecidableEq Args] [Inhabited Args]

def restart (state : System Args World) : System Args World :=
  { state with memory := .empty }

def Made (workers : Coordinator → Prop) (admits : ApiCall Args → System Args World → Prop)
    (state : System Args World) (program : Action Args Unit) : Prop :=
  ∃ (worker : Coordinator) (request : ApiCall Args),
    workers worker ∧ admits request state ∧ program = request.program worker

/-- The states between the calls that operators make of one coordinator. -/
abbrev Lifetime (outside : Outside Args World) (workers : Coordinator → Prop)
    (admits : ApiCall Args → System Args World → Prop) (strikes : System Args World → Prop)
    (initial : System Args World) : System Args World → Prop :=
  Lives (machine outside fun _ => True) (Made workers admits) strikes restart initial

/-- Operators make these calls in turn, and those with a number are cut by a
crash after so many calls, as far as the checks let them. -/
def rehearsedLife (outside : Outside Unit World)
    (outcome : (request : OutsideCall Unit) → Except PyError request.Answer)
    (accepts : System Unit World → ApiCall Unit → Bool) (strike : System Unit World → Bool)
    (initial : System Unit World) (entries : List (ApiCall Unit × Option Nat)) :
    System Unit World :=
  entries.foldl (liveThrough (answerWith outside fun request world => (outcome request, world))
    (ApiCall.program sampleWorker) accepts strike restart 60) initial

theorem rehearsed_life_reached {outside : Outside Unit World}
    {outcome : (request : OutsideCall Unit) → Except PyError request.Answer}
    (honest : ∀ request world, outside.respond request world (outcome request) world)
    {workers : Coordinator → Prop} (works : workers sampleWorker)
    {admits : ApiCall Unit → System Unit World → Prop} {accepts : System Unit World → ApiCall Unit → Bool}
    (admitted : ∀ state request, accepts state request = true → admits request state)
    {strikes : System Unit World → Prop} {strike : System Unit World → Bool}
    (struck : ∀ state, strike state = true → strikes state) (initial : System Unit World)
    (entries : List (ApiCall Unit × Option Nat)) :
    Lifetime outside workers admits strikes initial
      (rehearsedLife outside outcome accepts strike initial entries) := by
  apply live_through_lives
  · exact answer_with_honest honest
  · exact fun state request passed => ⟨sampleWorker, request, works, admitted state request passed, rfl⟩
  · exact struck

end Lifetimes

end SagaMind
