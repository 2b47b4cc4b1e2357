import SagaMind.ExactRollbacks

/-!
# Runs on a sandbox that can take back

A sandbox can take back if what its actions did comes off again newest first:
the compensation of the newest deed succeeds and leaves the world of the deeds
before it. A saga on such a sandbox, whose calls may execute, pause, approve and
reject, leaves the world of its completed steps, until a rollback leaves the
world it started from. Actions and checks may raise.
-/

namespace SagaMind.Takeback

open CallProgram KeyedTable Coordinator Workshop ExactRollbacks

set_option autoImplicit false

variable {Args World : Type}

structure Reversing (outside : Outside Args World) (sagaId : String) where
  /-- These deeds, newest first, have led to the world. -/
  holds : List (Deed Args) → World → Prop
  /-- The deeds that a step of the saga may be. -/
  sound : Deed Args → Prop
  unobserving : ∀ request reply world, outside.observe request reply world = world
  verifies : ∀ {arguments invariants deeds world reply after}, holds deeds world →
    outside.respond (.verify arguments invariants) world reply after → holds deeds after
  validates : ∀ {action deeds world reply after}, holds deeds world →
    outside.respond (.validate action) world reply after → holds deeds after
  acts : ∀ {step deeds world result after}, sound (deed step) → holds deeds world →
    outside.respond (.execute sagaId step) world (.ok result) after →
    holds (if result.succeeded then deed step :: deeds else deeds) after
  raises : ∀ {step deeds world error after}, sound (deed step) → holds deeds world →
    outside.respond (.execute sagaId step) world (.error error) after → holds deeds after
  undoes : ∀ {deed deeds world reply after}, holds (deed :: deeds) world →
    outside.respond (.executeCompensation sagaId (some deed.stepId) deed.compensation) world reply
      after → reply = .ok true ∧ holds deeds after

section States

variable {outside : Outside Args World} {sagaId : String} (takeback : Reversing outside sagaId)

/-- The saga is active and was not rolled back, and its completed steps have led
to the world. -/
structure Standing (worker : Coordinator) (done : List (SagaStep Args))
    (state : System Args World) : Prop where
  active : ∃ saga, state.memory.active.find? sagaId = some saga ∧ saga.completedSteps = done ∧
    saga.status ≠ .rolledBack ∧ ∀ step ∈ saga.pendingSteps, takeback.sound (deed step)
  holds : takeback.holds (done.reverse.map deed) state.world
  recorded : Recorded worker sagaId done state.store

structure Rolling (worker : Coordinator) (remaining : List (SagaStep Args))
    (state : System Args World) : Prop where
  active : ∃ saga, state.memory.active.find? sagaId = some saga
  holds : takeback.holds (remaining.map deed) state.world
  recorded : Recorded worker sagaId remaining state.store

structure Undone (state : System Args World) : Prop where
  active : ∃ saga, state.memory.active.find? sagaId = some saga ∧ saga.status = .rolledBack
  holds : takeback.holds [] state.world

inductive Settled (worker : Coordinator) (state : System Args World) : Prop
  | standing (done : List (SagaStep Args)) (standing : Standing takeback worker done state)
  | undone (undone : Undone takeback state)
  | dropped (absent : state.memory.active.find? sagaId = none) (deeds : List (Deed Args))
      (holds : takeback.holds deeds state.world)

end States

section Stores

variable {outside : Outside Args World} {sagaId : String} {takeback : Reversing outside sagaId}
  {self : Coordinator} {done : List (SagaStep Args)} {step : SagaStep Args}
  {state : System Args World}

theorem Standing.stores (standing : Standing takeback self done state) {store : Store Args}
    (same : self.journals = true → ∀ other ∈ done,
      store.effect? sagaId other.stepId = state.store.effect? sagaId other.stepId) :
    Standing takeback self done { state with store } where
  active := standing.active
  holds := standing.holds
  recorded := standing.recorded.other_store same

theorem Standing.put (standing : Standing takeback self done state) {entry : Effect Args}
    (other : ∀ record, state.store.effect? sagaId entry.stepId = some record →
      record.state ≠ .committed) :
    Standing takeback self done { state with store := state.store.putEffect sagaId entry } := by
  apply standing.stores
  intro journals step member
  rw [Store.effect_put_effect, if_neg]
  exact fun both => standing.recorded.apart journals other step member both.2.symm

/-- Fields of the saga object may be assigned, but for its completed steps. -/
theorem Standing.amend (standing : Standing takeback self done state)
    {change : SagaTransaction Args → SagaTransaction Args}
    (own : ∀ saga, (change saga).sagaId = saga.sagaId)
    (kept : ∀ saga, (change saga).completedSteps = saga.completedSteps)
    (forward : ∀ saga, saga.status ≠ .rolledBack → (change saga).status ≠ .rolledBack)
    (sound : ∀ saga, (∀ step ∈ saga.pendingSteps, takeback.sound (deed step)) →
      ∀ step ∈ (change saga).pendingSteps, takeback.sound (deed step)) :
    Standing takeback self done { state with memory := state.memory.amend sagaId change } where
  active := by
    obtain ⟨saga, found, completed, live, waiting⟩ := standing.active
    exact ⟨change saga, Memory.find_amend found (own saga), (kept saga).trans completed,
      forward saga live, sound saga waiting⟩
  holds := standing.holds
  recorded := standing.recorded

theorem Standing.restatus (standing : Standing takeback self done state) {status : SagaStatus}
    (forward : status ≠ .rolledBack) :
    Standing takeback self done
      { state with memory := ((MemoryCall.setStatus sagaId status).serve state.memory).2 } :=
  standing.amend (fun _ => rfl) (fun _ => rfl) (fun _ _ => forward) fun _ waiting => waiting

theorem Standing.suspend (standing : Standing takeback self done state)
    {pending : List (SagaStep Args)} (sound : ∀ step ∈ pending, takeback.sound (deed step)) :
    Standing takeback self done
      { state with memory := ((MemoryCall.setPending sagaId pending).serve state.memory).2 } :=
  standing.amend (fun _ => rfl) (fun _ => rfl) (fun _ live => live) fun _ _ => sound

theorem Standing.unpend (standing : Standing takeback self done state) :
    Standing takeback self done
      { state with memory := ((MemoryCall.setPending sagaId []).serve state.memory).2 } :=
  standing.suspend fun _ member => absurd member List.not_mem_nil

/-- The step joins the completed ones, in a store that has its record committed
and the others as before. -/
theorem Standing.commit (standing : Standing takeback self done state) {store : Store Args}
    {world : World} (journal : CommittedIn self sagaId step.stepId state.store store)
    (fresh : self.journals = true → ∀ other ∈ done, other.stepId ≠ step.stepId)
    (holds : takeback.holds (deed step :: done.reverse.map deed) world) :
    Standing takeback self (done ++ [{ step with status := .committed }])
      { store, world
        memory := ((MemoryCall.appendCompleted sagaId { step with status := .committed }).serve
          state.memory).2 } := by
  constructor
  · obtain ⟨saga, found, rfl, live, waiting⟩ := standing.active
    exact ⟨{ saga with completedSteps := saga.completedSteps ++ [{ step with status := .committed }] },
      Memory.find_amend found rfl, rfl, live, waiting⟩
  · simpa [deed] using holds
  · apply recorded_append
    · apply standing.recorded.other_store
      exact fun journals other member => journal.others journals _ (fresh journals other member)
    · exact fresh
    · exact journal.committed

end Stores

section Forward

variable [DecidableEq Args] {outside : Outside Args World} {sagaId : String}
  {takeback : Reversing outside sagaId} {self : Coordinator} {done : List (SagaStep Args)}
  {step : SagaStep Args} {state : System Args World}

abbrev onReversing (_ : Reversing outside sagaId) :
    Machine (coordinatorFace Args) (System Args World) :=
  machine outside fun _ => True

omit [DecidableEq Args] in
@[simp] theorem stored_reversing (takeback : Reversing outside sagaId) (store : Store Args)
    (request : StoreCall Args) (reply : Except PyError request.Answer) :
    state.stored outside store request reply = { state with store } := by
  rw [System.stored, takeback.unobserving]

def Executing (worker : Coordinator) (sagaId stepId : String) (store : Store Args) : Prop :=
  worker.journals = true →
    ∃ record, store.effect? sagaId stepId = some record ∧ record.state = .executing

theorem marks_executing (standing : Standing takeback self done state) :
    wp (onReversing takeback) (self.markExecuting sagaId step)
      (fun _ after => Standing takeback self done after ∧
        Executing self sagaId step.stepId after.store)
      (fun _ => Standing takeback self done) state := by
  have starts : ∀ between, Standing takeback self done between → wp (onReversing takeback) (do
      let _ ← flagged true false (onStore (.transitionEffect sagaId step.stepId [.prepared]
        .executing none none))
      pure ())
      (fun _ after => Standing takeback self done after ∧
        Executing self sagaId step.stepId after.store)
      (fun _ => Standing takeback self done) between := by
    intro between standing
    rw [wp_bind, wp_flagged]
    apply wp_transition trivial
    · intro entry found legal
      have own : entry.stepId = step.stepId := Table.find_key found
      have prepared : entry.state = .prepared := by simpa using legal
      rw [stored_reversing takeback]
      constructor
      · apply standing.put
        intro record known
        rw [own, found] at known
        obtain rfl := Option.some.inj known
        rw [prepared]
        decide
      · exact fun _ => ⟨_, by rw [Store.effect_put_effect, if_pos ⟨rfl, own⟩], rfl⟩
    · intro refusal _
      rw [stored_reversing takeback]
      exact standing
  unfold markExecuting
  rw [wp_ite]
  split
  · rw [wp_bind, wp_flagged]
    apply wp_prepare trivial
    · intro existing _ _
      rw [stored_reversing takeback]
      exact starts _ standing
    · intro entry unknown shape
      rw [stored_reversing takeback]
      apply starts
      apply standing.put
      intro record known
      rw [shape, unknown] at known
      cases known
    · intro refusal
      rw [stored_reversing takeback]
      exact standing
  · rename_i unjournaled
    exact ⟨standing, fun journals => absurd journals unjournaled⟩

variable [Inhabited Args]

structure Ahead (takeback : Reversing outside sagaId) (worker : Coordinator)
    (done : List (SagaStep Args)) (step : SagaStep Args) (origin : System Args World)
    (world : World) : Prop where
  standing : Standing takeback worker done origin
  current : Executing worker sagaId step.stepId origin.store
  holds : takeback.holds (deed step :: done.reverse.map deed) world

omit [Inhabited Args] [DecidableEq Args] in
theorem Ahead.fresh {world : World} (ahead : Ahead takeback self done step state world)
    (journals : self.journals = true) : ∀ other ∈ done, other.stepId ≠ step.stepId := by
  apply ahead.standing.recorded.apart journals
  intro record found
  obtain ⟨started, known, executing⟩ := ahead.current journals
  obtain rfl : started = record := Option.some.inj (known.symm.trans found)
  rw [executing]
  decide

/-- What follows the commit of a record only adds to its history. -/
theorem records_committed {world : World} {result : ExecuteResult Args}
    (ahead : Ahead takeback self done step state world) {store : Store Args}
    (journal : CommittedIn self sagaId step.stepId state.store store) :
    wp (onReversing takeback) (do
      flagged self.journals false
        (self.recordHistory sagaId { step with status := .committed } result)
      pure { step with status := .committed })
      (fun committed after => committed.status = .committed ∧
        ∃ done, Standing takeback self done after) (fun _ _ => False)
      { store, world
        memory := ((MemoryCall.appendCompleted sagaId { step with status := .committed }).serve
          state.memory).2 } := by
  unfold recordHistory
  rw [wp_bind, wp_flagged, wp_ite]
  split
  · apply wp_record_step trivial
    rw [stored_reversing takeback]
    have recorded entry : CommittedIn self sagaId step.stepId state.store
        (store.recordStep sagaId entry) :=
      ⟨journal.committed, journal.others⟩
    exact ⟨rfl, _, ahead.standing.commit (recorded _) ahead.fresh ahead.holds⟩
  · exact ⟨rfl, _, ahead.standing.commit journal ahead.fresh ahead.holds⟩

theorem commits_ahead {world : World} {result : ExecuteResult Args}
    (ahead : Ahead takeback self done step state world) :
    wp (onReversing takeback) (self.commitStep sagaId step result)
      (fun committed after => committed.status = .committed ∧
        ∃ done, Standing takeback self done after) (fun _ _ => False) { state with world } := by
  unfold commitStep markApplied publishStep publishUnjournaled
  rw [wp_bind, wp_ite]
  split
  · rename_i journals
    obtain ⟨started, known, executing⟩ := ahead.current journals
    rw [wp_bind, wp_flagged]
    apply wp_transition trivial
    · intro entry found legal
      have own : entry.stepId = step.stepId := Table.find_key found
      rw [stored_reversing takeback, wp_pure, wp_bind, wp_flagged]
      apply wp_memory trivial
      rw [wp_bind, wp_bind, wp_flagged]
      apply wp_commit trivial
      · intro moved present _
        have same : moved.stepId = step.stepId := Table.find_key present
        rw [stored_reversing takeback]
        apply records_committed ahead
        constructor
        · exact fun _ =>
            ⟨_, by rw [Store.effect_publish, Store.effect_put_effect, if_pos ⟨rfl, same⟩], rfl⟩
        · intro _ id apart
          rw [Store.effect_publish, Store.effect_put_effect, if_neg, Store.effect_put_effect,
            if_neg]
          · exact fun both => apart (both.2.symm.trans own)
          · exact fun both => apart (both.2.symm.trans same)
      · intro refusal illegal
        exact (illegal _ (by rw [Store.effect_put_effect, if_pos ⟨rfl, own⟩]) rfl).elim
    · intro refusal illegal
      apply illegal started known
      simp [executing]
  · rename_i unjournaled
    have unbound : ∀ store, CommittedIn self sagaId step.stepId state.store store :=
      fun _ => ⟨fun journals => absurd journals unjournaled,
        fun journals => absurd journals unjournaled⟩
    rw [wp_pure, wp_bind, wp_flagged]
    apply wp_memory trivial
    rw [wp_bind, wp_flagged, wp_ite]
    split
    · rw [wp_bind]
      refine (wp_on_store _ _ _ _).mpr ⟨trivial, ?_⟩
      simp only [StoreCall.serve, replied_ok, afterStore, takeback.unobserving]
      rw [wp_ite]
      split
      · refine (wp_on_store _ _ _ _).mpr ⟨trivial, ?_⟩
        simp only [StoreCall.serve, replied_ok, afterStore, takeback.unobserving]
        exact records_committed ahead (unbound _)
      · exact records_committed ahead (unbound _)
    · exact records_committed ahead (unbound _)

/-- A step is executed and joins the completed ones, or it leaves nothing. -/
theorem executes_step (sound : takeback.sound (deed step))
    (standing : Standing takeback self done state) :
    wp (onReversing takeback) (self.executeStep sagaId step)
      (fun committed after => committed.status = .committed ∧
        ∃ done, Standing takeback self done after)
      (fun _ after => ∃ done, Standing takeback self done after) state := by
  apply execute_step_rule fun between => Standing takeback self done between ∧
    Executing self sagaId step.stepId between.store
  case marks =>
    apply wp_mono (marks_executing standing)
    · exact fun _ _ marked => marked
    · exact fun _ after standing => ⟨done, standing⟩
  case runs =>
    intro between ⟨standing, current⟩
    apply wp_outside trivial
    · intro result world answered
      have holds := takeback.acts sound standing.holds answered
      split
      · rename_i succeeded
        rw [if_pos succeeded] at holds
        apply wp_unfailing (commits_ahead ⟨standing, current, holds⟩)
        exact fun _ _ reached => reached
      · rename_i refused
        rw [if_neg refused] at holds
        have standing : Standing takeback self done { between with world } :=
          ⟨standing.active, holds, standing.recorded⟩
        unfold abortStep
        rw [wp_ite]
        split
        · rw [wp_bind, wp_flagged]
          apply wp_transition trivial
          · intro entry found legal
            have own : entry.stepId = step.stepId := Table.find_key found
            have executing : entry.state = .executing := by simpa using legal
            rw [stored_reversing takeback]
            refine ⟨done, ?_⟩
            apply standing.put
            intro record known
            rw [own, found] at known
            obtain rfl := Option.some.inj known
            rw [executing]
            decide
          · intro refusal _
            rw [stored_reversing takeback]
            exact ⟨done, standing⟩
        · exact ⟨done, standing⟩
    · intro error world answered
      exact ⟨done, standing.active, takeback.raises sound standing.holds answered,
        standing.recorded⟩

end Forward

section Rollback

variable [DecidableEq Args] {outside : Outside Args World} {sagaId : String}
  {takeback : Reversing outside sagaId} {self : Coordinator} {done rest : List (SagaStep Args)}
  {step : SagaStep Args} {state : System Args World}

theorem undoes_step (rolling : Rolling takeback self (step :: rest) state) :
    wp (onReversing takeback) (self.undoStep sagaId step)
      (fun goOn after => if goOn then Rolling takeback self rest after else Undone takeback after)
      (fun _ _ => False) state := by
  have booked : self.journals = true → ∃ record,
      state.store.effect? sagaId step.stepId = some record ∧ record.state = .committed :=
    fun journals => (rolling.recorded journals).2 step (List.mem_cons_self ..)
  have unobserved : Unobserved outside :=
    ⟨fun _ _ _ _ => takeback.unobserving _ _ _, fun _ _ _ _ _ _ _ _ _ => takeback.unobserving _ _ _⟩
  have answers : ∀ reply world, outside.respond
      (.executeCompensation sagaId (some step.stepId) step.compensation) state.world reply world →
      reply = .ok true ∧ takeback.holds (rest.map deed) world :=
    fun _ _ answered => @Reversing.undoes _ _ _ _ takeback (deed step) _ _ _ _ rolling.holds answered
  unfold undoStep
  rw [wp_attempt]
  apply wp_unfailing (compensates_step unobserved booked answers)
  intro goOn after ⟨goes, memory, holds, others⟩
  rw [if_pos goes]
  constructor
  · obtain ⟨saga, found⟩ := rolling.active
    exact ⟨saga, by rw [memory, found]⟩
  · exact holds
  · intro journals
    obtain ⟨distinct, each⟩ := rolling.recorded journals
    rw [List.map_cons, List.nodup_cons] at distinct
    refine ⟨distinct.2, fun other member => ?_⟩
    rw [others]
    · exact each other (List.mem_cons_of_mem _ member)
    · intro same
      exact distinct.1 (List.mem_map.mpr ⟨other, member, same⟩)

theorem closes_rollback (rolling : Rolling takeback self [] state) :
    wp (onReversing takeback) (self.closeRollback sagaId) (fun _ => Undone takeback)
      (fun _ _ => False) state := by
  obtain ⟨saga, found⟩ := rolling.active
  have own : saga.sagaId = sagaId := Table.find_key found
  have active : ∃ saga, ((MemoryCall.setStatusIfActive sagaId .rolledBack).serve
      state.memory).2.active.find? sagaId = some saga ∧ saga.status = .rolledBack :=
    ⟨{ saga with status := .rolledBack }, by simp [MemoryCall.serve, found, own], rfl⟩
  unfold closeRollback writeStatus
  rw [wp_bind]
  apply wp_memory trivial
  rw [wp_ite]
  split
  · apply wp_write_state trivial
    rw [stored_reversing takeback]
    exact ⟨active, rolling.holds⟩
  · exact ⟨active, rolling.holds⟩

theorem writes_status (standing : Standing takeback self done state) (status : SagaStatus)
    (metadata : Metadata Args) :
    wp (onReversing takeback) (self.writeStatus sagaId status metadata)
      (fun _ => Standing takeback self done) (fun _ _ => False) state := by
  unfold writeStatus
  rw [wp_ite]
  split
  · apply wp_write_state trivial
    rw [stored_reversing takeback]
    exact standing.stores fun _ _ _ => Store.effect_write_state ..
  · exact standing

theorem reads_steps (standing : Standing takeback self done state) :
    wp (onReversing takeback) (completedSteps sagaId)
      (fun steps => Rolling takeback self steps.reverse) (fun _ _ => False) state := by
  obtain ⟨saga, found, rfl, _⟩ := standing.active
  unfold completedSteps
  apply wp_memory trivial
  have answer : ((MemoryCall.completedSteps sagaId).serve state.memory).1 = saga.completedSteps := by
    simp [MemoryCall.serve, Memory.held?, found]
  rw [answer]
  exact ⟨⟨saga, found⟩, standing.holds, standing.recorded.reverse⟩

/-- A step of unknown outcome is quarantined after the rollback. -/
theorem quarantines_step (undone : Undone takeback state) (step : SagaStep Args) :
    wp (onReversing takeback) (quarantineStep sagaId step) (fun _ => Undone takeback)
      (fun _ _ => False) state := by
  unfold quarantineStep deadLetterRecovery
  rw [wp_bind, wp_attempt, wp_bind]
  apply wp_transition trivial
  · intro entry _ _
    rw [wp_pure, wp_bind, stored_reversing takeback]
    apply wp_write_state trivial
    rw [stored_reversing takeback]
    apply wp_push_dead_letter trivial
    rw [stored_reversing takeback]
    exact ⟨undone.active, undone.holds⟩
  · intro refusal _
    rw [wp_pure, wp_bind, stored_reversing takeback]
    apply wp_write_state trivial
    rw [stored_reversing takeback]
    apply wp_push_dead_letter trivial
    rw [stored_reversing takeback]
    exact ⟨undone.active, undone.holds⟩

theorem asks_nothing {Value : Type} {action : Action Args Value} (uses : Uses Enquiry action)
    (standing : Standing takeback self done state) :
    wp (onReversing takeback) action (fun _ => Standing takeback self done)
      (fun _ => Standing takeback self done) state := by
  have kept : ∀ request before reply after, Enquiry request →
      Standing takeback self done before → serveCall outside request before reply after →
      Standing takeback self done after := by
    intro request before reply after enquiry standing taken
    rcases request with request | request | request
    · exact enquiry.elim
    · cases request with
      | stepAlreadyCommitted owner key =>
          obtain ⟨_, rfl⟩ := taken
          simp only [afterStore, takeback.unobserving]
          exact standing
      | _ => exact enquiry.elim
    · cases request with
      | verify arguments invariants =>
          obtain ⟨world, answered, rfl⟩ := taken
          exact ⟨standing.active, takeback.verifies standing.holds answered, standing.recorded⟩
      | validate action =>
          obtain ⟨world, answered, rfl⟩ := taken
          exact ⟨standing.active, takeback.validates standing.holds answered, standing.recorded⟩
      | _ => exact enquiry.elim
  apply wp_mono (wp_maintains (fun _ _ _ _ => trivial) kept (uses ()) standing)
  · exact fun _ _ reached => reached.2
  · exact fun _ _ reached => reached.2

theorem closes_batch (standing : Standing takeback self done state) :
    wp (onReversing takeback) (self.closeBatch sagaId) (fun _ => Settled takeback self)
      (fun _ => Settled takeback self) state := by
  unfold closeBatch
  rw [wp_bind]
  apply wp_memory trivial
  rw [wp_bind]
  apply wp_unfailing (writes_status (standing.restatus (by decide)) _ _)
  intro _ between standing
  apply wp_memory trivial
  rcases @Memory.evict_drops Args sagaId self.maxActiveSagas between.memory.active.rows
    between.memory with dropped | stays
  · exact .dropped dropped _ standing.holds
  · obtain ⟨saga, found, rest⟩ := standing.active
    exact .standing done ⟨⟨saga, stays.trans found, rest⟩, standing.holds, standing.recorded⟩

variable [Inhabited Args]

/-- The outline: the completed steps have led to the world, up to a rollback,
which leaves nothing of them. -/
def outline (takeback : Reversing outside sagaId) (self : Coordinator) :
    Outline (onReversing takeback) self sagaId where
  falling := fun state => ∃ done, Standing takeback self done state
  rolling := Rolling takeback self
  undone := Undone takeback
  queue := fun steps => ∀ step ∈ steps, takeback.sound (deed step)
  working := fun state => ∃ done, Standing takeback self done state
  finished := Settled takeback self
  restatus := by
    intro step rest status sound other member
    rcases List.mem_cons.mp member with rfl | later
    · exact sound step (List.mem_cons_self ..)
    · exact sound other (List.mem_cons_of_mem _ later)
  moves := fun sound step member => sound step (List.mem_cons_of_mem _ member)
  falls := fun working => working
  ends := fun ⟨done, standing⟩ => .standing done standing
  rests := .undone
  asks := by
    intro Value action state uses ⟨done, standing⟩
    apply wp_mono (asks_nothing uses standing)
    · exact fun _ _ standing => ⟨done, standing⟩
    · exact fun _ _ standing => ⟨done, standing⟩
  executes := fun sound _ ⟨_, standing⟩ => executes_step (sound _ (List.mem_cons_self ..)) standing
  pauses := by
    intro step rest state sound _ _ ⟨done, standing⟩
    unfold pauseWith
    rw [wp_bind]
    apply wp_memory trivial
    rw [wp_bind]
    apply wp_memory trivial
    apply wp_unfailing (writes_status ((standing.restatus (by decide)).suspend sound) _ _)
    exact fun _ _ standing => .standing done standing
  commits := fun ⟨_, standing⟩ => closes_batch standing
  enters := by
    intro state ⟨done, standing⟩
    rw [wp_bind]
    apply wp_unfailing (writes_status standing _ _)
    exact fun _ _ standing => reads_steps standing
  undoes := undoes_step
  closes := closes_rollback
  quarantines := by
    intro step state undone
    apply wp_unfailing (quarantines_step undone step)
    exact fun _ _ undone => .undone undone

end Rollback

section Runs

variable [DecidableEq Args] [Inhabited Args] {outside : Outside Args World} {sagaId : String}
  {takeback : Reversing outside sagaId} {self : Coordinator} {initial state : System Args World}

/-- Calls on the saga. New steps are submitted only while it is not rolled back,
and they are sound. -/
def Submittable (takeback : Reversing outside sagaId) (state : System Args World) :
    ApiCall Args → Prop
  | .execute owner steps => owner = sagaId ∧ (∀ step ∈ steps, takeback.sound (deed step)) ∧
      ∀ saga, state.memory.active.find? sagaId = some saga → saga.status ≠ .rolledBack
  | .resume owner => owner = sagaId
  | .reject owner => owner = sagaId
  | _ => False

theorem call_settles {request : ApiCall Args} (submittable : Submittable takeback state request)
    (settled : Settled takeback self state) :
    wp (onReversing takeback) (request.program self) (fun _ => Settled takeback self)
      (fun _ => Settled takeback self) state := by
  have standing : (∀ saga, state.memory.active.find? sagaId = some saga → saga.status ≠ .rolledBack) →
      (state.memory.active.find? sagaId).isSome = true → ∃ done, Standing takeback self done state := by
    intro live present
    cases settled with
    | standing done standing => exact ⟨done, standing⟩
    | undone undone =>
        obtain ⟨saga, found, rolled⟩ := undone.active
        exact absurd rolled (live saga found)
    | dropped absent deeds holds =>
        rw [absent] at present
        cases present
  have awaiting : ∀ saga, state.memory.active.find? sagaId = some saga →
      saga.status = .awaitingApproval → ∃ done, Standing takeback self done state := by
    intro saga found waits
    apply standing
    · intro other known
      obtain rfl : saga = other := Option.some.inj (found.symm.trans known)
      rw [waits]
      decide
    · rw [found]
      rfl
  have own : request.sagaId? = some sagaId := by
    cases request with
    | start | recover => exact submittable.elim
    | execute => exact congrArg some submittable.1
    | resume | reject => exact congrArg some submittable
  apply (outline takeback self).request (fun taken => ⟨taken.1, taken.2⟩)
  · exact fun _ => trivial
  · exact own
  · exact settled
  · intro enters
    cases request with
    | start | recover => exact submittable.elim
    | execute owner steps =>
        obtain ⟨rfl, sound, live⟩ := submittable
        exact ⟨standing live enters, sound⟩
    | resume owner =>
        obtain rfl : owner = sagaId := submittable
        intro saga found
        have waits : saga.status = .awaitingApproval := by
          rw [ApiCall.enters, found, Option.any_some, decide_eq_true_iff] at enters
          exact enters.1
        obtain ⟨done, standing⟩ := awaiting saga found waits
        constructor
        · obtain ⟨other, known, _, _, sound⟩ := standing.active
          obtain rfl : saga = other := Option.some.inj (found.symm.trans known)
          intro step member
          cases pending : saga.pendingSteps with
          | nil =>
              rw [pending] at member
              cases member
          | cons first rest =>
              rw [pending] at member sound
              rcases List.mem_cons.mp member with rfl | later
              · exact sound first (List.mem_cons_self ..)
              · exact sound step (List.mem_cons_of_mem _ later)
        · unfold takePending
          rw [wp_bind]
          apply wp_memory trivial
          rw [wp_bind]
          apply wp_memory trivial
          apply wp_unfailing (writes_status (standing.unpend.restatus (by decide)) _ _)
          exact fun _ _ standing => ⟨_, standing⟩
    | reject owner =>
        obtain rfl : owner = sagaId := submittable
        obtain ⟨saga, found, waits⟩ := (Option.any_eq_true _ _).mp enters
        obtain ⟨done, standing⟩ := awaiting saga found (by simpa using waits)
        change wp (onReversing takeback) (self.dropPending owner) _ _ _
        unfold dropPending
        rw [wp_bind]
        apply wp_memory trivial
        apply wp_unfailing (writes_status standing.unpend _ _)
        exact fun _ _ standing => ⟨_, standing⟩

theorem runs_settle {admits : System Args World → Action Args Unit → Prop}
    (submits : ∀ state program, Settled takeback self state → admits state program →
      ∃ request, Submittable takeback state request ∧ program = request.program self)
    (initially : Settled takeback self initial)
    (runs : Lives (onReversing takeback) admits (fun _ => False) id initial state) :
    Settled takeback self state := by
  induction runs with
  | start => exact initially
  | served earlier admitted steps finished ih =>
      obtain ⟨request, submittable, rfl⟩ := submits _ _ ih admitted
      exact wp_over (call_settles submittable ih) steps finished
  | crashed earlier admitted steps struck ih => exact struck.elim

end Runs

end SagaMind.Takeback
