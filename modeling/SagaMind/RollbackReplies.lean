import SagaMind.Coordinator.Lifetime
import SagaMind.Interfaces

/-!
# Replies that claim a rollback

Both interfaces answer `ROLLED_BACK` whenever the coordinator did not commit. A
rollback that a compensation fails, or that cannot claim the record of a step,
ends `COMPENSATION_FAILED` instead. Which of the two it is follows from the
records of the completed steps and from what the compensations return.
-/

namespace SagaMind.RollbackReplies

open CallProgram KeyedTable Coordinator

set_option autoImplicit false

variable {Args : Type}

/-- What the verifier and the sandbox did during a call. -/
structure Outcomes where
  /-- A verification, a preflight check or an execution did not succeed. -/
  refused : Bool := false
  /-- A compensation did not return `True`. -/
  failed : Bool := false
  deriving DecidableEq

def Outcomes.note (before : Outcomes) : (request : OutsideCall Args) →
    Except PyError request.Answer → Outcomes
  | .verify .., .ok (accepted, _) => { before with refused := before.refused || !accepted }
  | .validate _, .ok _ => before
  | .execute .., .ok result => { before with refused := before.refused || !result.succeeded }
  | .executeCompensation .., .ok succeeded => { before with failed := before.failed || !succeeded }
  | .executeCompensation .., .error _ => { before with failed := true }
  | .resolveEffect _, _ | .resolveCompensation _, _ | .executeIdempotent .., _ => before
  | _, .error _ => { before with refused := true }

/-- The verifier and the sandbox may answer or raise anything, and it is noted. -/
def noting : Outside Args Outcomes where
  respond := fun request before reply after => after = before.note request reply
  observe := fun _ _ world => world

def claimable : EffectState → Bool
  | .applied | .committed | .compensating => true
  | _ => false

/-- A rollback can claim the record of each of these steps, one after another. -/
def Claimable (self : Coordinator) (sagaId : String) (steps : List (SagaStep Args))
    (store : Store Args) : Prop :=
  self.journals = true → (steps.map (·.stepId)).Nodup ∧
    ∀ step ∈ steps, ∃ effect, store.effect? sagaId step.stepId = some effect ∧
      claimable effect.state = true

def completed (memory : Memory Args) (sagaId : String) : List (SagaStep Args) :=
  ((memory.held? sagaId).map (·.completedSteps)).getD []

section StoreFacts

variable {self : Coordinator} {sagaId : String} {step : SagaStep Args} {rest : List (SagaStep Args)}
  {store : Store Args}

theorem claimable_nil : Claimable self sagaId ([] : List (SagaStep Args)) store := by
  intro _
  exact ⟨List.nodup_nil, fun step member => absurd member List.not_mem_nil⟩

theorem claimable_of_unjournaled (unjournaled : self.journals ≠ true) :
    Claimable self sagaId rest store :=
  fun journals => absurd journals unjournaled

theorem Claimable.head (all : Claimable self sagaId (step :: rest) store)
    (journals : self.journals = true) :
    ∃ effect, store.effect? sagaId step.stepId = some effect ∧ claimable effect.state = true :=
  (all journals).2 step (List.mem_cons_self ..)

theorem claimable_put {entry : Effect Args} (absent : ∀ other ∈ rest, other.stepId ≠ entry.stepId) :
    Claimable self sagaId rest (store.putEffect sagaId entry) ↔ Claimable self sagaId rest store := by
  have same : ∀ other ∈ rest, (store.putEffect sagaId entry).effect? sagaId other.stepId =
      store.effect? sagaId other.stepId := by
    intro other member
    rw [Store.effect_put_effect, if_neg]
    exact fun both => absent other member both.2.symm
  constructor
  · intro all journals
    refine ⟨(all journals).1, fun other member => ?_⟩
    obtain ⟨effect, found, able⟩ := (all journals).2 other member
    rw [same other member] at found
    exact ⟨effect, found, able⟩
  · intro all journals
    refine ⟨(all journals).1, fun other member => ?_⟩
    obtain ⟨effect, found, able⟩ := (all journals).2 other member
    rw [← same other member] at found
    exact ⟨effect, found, able⟩

theorem claimable_rest {effect : Effect Args}
    (found : store.effect? sagaId step.stepId = some effect) (able : claimable effect.state = true)
    {undone : Effect Args} (same : undone.stepId = step.stepId) (finished : undone.state = .compensated)
    (journals : self.journals = true) :
    Claimable self sagaId rest (store.putEffect sagaId undone) ↔
      Claimable self sagaId (step :: rest) store := by
  constructor
  · intro later _
    obtain ⟨distinct, each⟩ := later journals
    have apart : ∀ other ∈ rest, other.stepId ≠ step.stepId := by
      intro other member repeated
      obtain ⟨entry, stored, able⟩ := each other member
      rw [Store.effect_put_effect, if_pos ⟨rfl, same.trans repeated.symm⟩] at stored
      rw [← Option.some.inj stored, finished] at able
      cases able
    constructor
    · rw [List.map_cons, List.nodup_cons]
      refine ⟨fun member => ?_, distinct⟩
      obtain ⟨other, listed, repeated⟩ := List.mem_map.mp member
      exact apart other listed repeated
    · intro other member
      rcases List.mem_cons.mp member with rfl | listed
      · exact ⟨effect, found, able⟩
      · obtain ⟨entry, stored, able⟩ := each other listed
        rw [Store.effect_put_effect, if_neg] at stored
        · exact ⟨entry, stored, able⟩
        · exact fun both => apart other listed (both.2.symm.trans same)
  · intro all
    have distinct := (all journals).1
    rw [List.map_cons, List.nodup_cons] at distinct
    have rests : Claimable self sagaId rest store := fun _ =>
      ⟨distinct.2, fun other member => (all journals).2 other (List.mem_cons_of_mem _ member)⟩
    rw [claimable_put]
    · exact rests
    · intro other member repeated
      exact distinct.1 (List.mem_map.mpr ⟨other, member, repeated.trans same⟩)

theorem claimable_again {effect entry : Effect Args}
    (found : store.effect? sagaId entry.stepId = some effect)
    (claims : claimable effect.state = true) (still : claimable entry.state = true) :
    Claimable self sagaId rest (store.putEffect sagaId entry) ↔ Claimable self sagaId rest store := by
  constructor
  · intro all journals
    refine ⟨(all journals).1, fun other member => ?_⟩
    obtain ⟨stored, present, able⟩ := (all journals).2 other member
    rw [Store.effect_put_effect] at present
    split at present
    · rename_i same
      exact ⟨effect, same.2 ▸ found, claims⟩
    · exact ⟨stored, present, able⟩
  · intro all journals
    refine ⟨(all journals).1, fun other member => ?_⟩
    obtain ⟨stored, present, able⟩ := (all journals).2 other member
    rw [Store.effect_put_effect]
    split
    · exact ⟨entry, rfl, still⟩
    · exact ⟨stored, present, able⟩

end StoreFacts

section Rollback

variable {self : Coordinator} {sagaId : String} {able : Prop} {refused : Bool}
  {state : System Args Outcomes}

/-- On the way through a rollback, with these steps still to be undone. What they
leave to be claimed decides whether the rollback can complete. -/
structure Rolling (worker : Coordinator) (sagaId : String) (able : Prop) (refused : Bool)
    (steps : List (SagaStep Args)) (state : System Args Outcomes) : Prop where
  held : ∃ entry, posted state.memory sagaId = some entry
  noted : state.world = ⟨refused, false⟩
  able : Claimable worker sagaId steps state.store ↔ able

def Undone (sagaId : String) (able : Prop) (refused : Bool) (state : System Args Outcomes) : Prop :=
  ∃ entry failed, posted state.memory sagaId = some entry ∧ state.world = ⟨refused, failed⟩ ∧
    (entry.1 = .rolledBack ↔ able ∧ failed = false)

variable [DecidableEq Args]

abbrev noted : Machine (coordinatorFace Args) (System Args Outcomes) :=
  machine noting fun _ => True

/-- The failure is marked in memory, and nothing more happens there. -/
theorem wp_handle_failure {step : SagaStep Args} {error : String} {failed : Bool}
    (held : ∃ entry, posted state.memory sagaId = some entry)
    (world : state.world = ⟨refused, failed⟩) (spoiled : ¬(able ∧ failed = false)) :
    wp noted (self.handleCompensationFailure sagaId step error)
      (fun _ => Undone sagaId able refused) (fun _ _ => False) state := by
  obtain ⟨entry, found⟩ := held
  unfold handleCompensationFailure
  rw [wp_bind]
  apply wp_memory trivial
  have undone : ∀ store : Store Args, Undone sagaId able refused { state with
      store, memory := ((MemoryCall.setStatusIfActive sagaId .compensationFailed).serve
        state.memory).2 } := by
    intro store
    refine ⟨(.compensationFailed, entry.2), failed, ?_, world, ?_⟩
    · dsimp only
      rw [posted_set_status_if_active, found, Option.map_some, if_pos rfl]
    · constructor
      · intro same
        cases same
      · exact fun completed => absurd completed spoiled
  rw [wp_ite]
  split
  · rw [wp_bind]
    apply wp_write_state trivial
    rw [wp_bind]
    unfold recordCompensationFailure
    rw [wp_ite]
    split
    · rw [wp_attempt, wp_bind]
      apply wp_get_effect trivial
      · intro effect _
        rw [wp_ite]
        split
        · rw [wp_bind]
          apply wp_transition trivial
          · exact fun entry _ _ => wp_push_dead_letter trivial (undone _)
          · exact fun refusal _ => wp_push_dead_letter trivial (undone _)
        · exact wp_push_dead_letter trivial (undone _)
      · exact fun error _ => wp_push_dead_letter trivial (undone _)
    · exact wp_push_dead_letter trivial (undone _)
  · exact undone _

variable {step : SagaStep Args} {rest : List (SagaStep Args)}

theorem wp_claim (rolling : Rolling self sagaId able refused (step :: rest) state) :
    wp noted (self.markCompensating sagaId step.stepId)
      (fun _ after => Rolling self sagaId able refused (step :: rest) after ∧
        (self.journals = true → ∃ effect, after.store.effect? sagaId step.stepId = some effect ∧
          effect.state = .compensating))
      (fun _ after => (∃ entry, posted after.memory sagaId = some entry) ∧
        after.world = ⟨refused, false⟩ ∧ ¬able) state := by
  unfold markCompensating
  rw [wp_ite]
  split
  · rename_i journals
    have barred : ∀ effect, state.store.effect? sagaId step.stepId = some effect →
        claimable effect.state ≠ true → ¬able := by
      intro effect known unable possible
      obtain ⟨stored, found, claims⟩ := (rolling.able.mpr possible).head journals
      rw [known] at found
      exact unable (Option.some.inj found ▸ claims)
    rw [wp_bind]
    apply wp_get_effect trivial
    · intro effect known
      rw [wp_ite]
      split
      · rename_i settled
        have claims : claimable effect.state = true := by
          rcases settled with applied | committed
          · rw [applied]
            rfl
          · rw [committed]
            rfl
        rw [wp_bind]
        apply wp_transition trivial
        · intro entry found legal
          have same : entry.stepId = step.stepId := Table.find_key found
          refine ⟨⟨rolling.held, rolling.noted, ?_⟩, fun _ => ⟨{ entry with
            state := .compensating, result := none, error := none }, ?_, rfl⟩⟩
          · rw [same.symm] at known
            have later : Claimable self sagaId (step :: rest) (state.store.putEffect sagaId
                { entry with state := .compensating, result := none, error := none }) ↔
                Claimable self sagaId (step :: rest) state.store :=
              claimable_again known claims rfl
            exact later.trans rolling.able
          · dsimp only [System.stored]
            rw [Store.effect_put_effect, if_pos ⟨rfl, same⟩]
        · intro refusal illegal
          exfalso
          apply illegal effect known
          rcases settled with applied | committed
          · simp [applied]
          · simp [committed]
      · rename_i unsettled
        rw [wp_ite]
        split
        · rename_i compensating
          exact ⟨⟨rolling.held, rolling.noted, rolling.able⟩, fun _ => ⟨effect, known, compensating⟩⟩
        · rename_i other
          refine ⟨rolling.held, rolling.noted, barred effect known ?_⟩
          intro claims
          cases state : effect.state <;> simp_all [claimable]
    · intro error unknown
      refine ⟨rolling.held, rolling.noted, fun possible => ?_⟩
      obtain ⟨stored, found, _⟩ := (rolling.able.mpr possible).head journals
      rw [unknown] at found
      cases found
  · rename_i unjournaled
    exact ⟨rolling, fun journals => absurd journals unjournaled⟩

theorem wp_undo (rolling : Rolling self sagaId able refused (step :: rest) state) :
    wp noted (self.undoStep sagaId step)
      (fun goOn after => if goOn then Rolling self sagaId able refused rest after
        else Undone sagaId able refused after) (fun _ _ => False) state := by
  have stops : ∀ {error : String} {failed : Bool} {between : System Args Outcomes},
      (∃ entry, posted between.memory sagaId = some entry) →
      between.world = ⟨refused, failed⟩ → ¬(able ∧ failed = false) → wp noted (do
        self.handleCompensationFailure sagaId step error
        pure false)
        (fun goOn after => if goOn then Rolling self sagaId able refused rest after
          else Undone sagaId able refused after) (fun _ _ => False) between := by
    intro error failed between held world spoiled
    rw [wp_bind]
    exact wp_mono (wp_handle_failure held world spoiled) (fun _ _ undone => undone)
      fun _ _ impossible => impossible
  unfold undoStep compensateStep
  rw [wp_attempt, wp_bind]
  apply wp_mono (wp_claim rolling)
  · intro _ between ⟨rolling, claimed⟩
    rw [wp_bind]
    apply wp_outside trivial
    · intro succeeded world answered
      change world = between.world.note _ _ at answered
      rw [rolling.noted] at answered
      cases succeeded with
      | true =>
          rw [wp_ite, if_pos rfl, wp_bind]
          unfold markCompensated
          rw [wp_ite]
          split
          · rename_i journals
            obtain ⟨effect, found, compensating⟩ := claimed journals
            have own : effect.stepId = step.stepId := Table.find_key found
            rw [wp_bind]
            apply wp_transition trivial
            · intro entry known _
              have same : entry.stepId = step.stepId := Table.find_key known
              rw [wp_pure, wp_pure, if_pos rfl]
              have claims : claimable effect.state = true := by
                rw [compensating]
                rfl
              have later : Claimable self sagaId rest (between.store.putEffect sagaId
                  { entry with state := .compensated, result := none, error := none }) ↔
                  Claimable self sagaId (step :: rest) between.store :=
                claimable_rest found claims same rfl journals
              exact ⟨rolling.held, answered, later.trans rolling.able⟩
            · intro refusal illegal
              exact absurd (by simp [compensating]) (illegal effect found)
          · rename_i unjournaled
            rw [wp_pure, wp_pure, if_pos rfl]
            refine ⟨rolling.held, answered, ?_⟩
            rw [← rolling.able]
            exact ⟨fun _ => claimable_of_unjournaled unjournaled,
              fun _ => claimable_of_unjournaled unjournaled⟩
      | false =>
          have spoiled : ¬(able ∧ (false || !false) = false) := fun both => absurd both.2 (by decide)
          have undone := @wp_handle_failure Args self sagaId able refused { between with world } _
            step "Compensation returned False" _ rolling.held answered spoiled
          rw [wp_ite, if_neg (by decide), wp_bind]
          apply wp_unfailing undone
          exact fun _ _ undone => undone
    · intro error world answered
      change world = between.world.note _ _ at answered
      rw [rolling.noted] at answered
      apply stops
      · exact rolling.held
      · exact answered
      · exact fun both => absurd both.2 (by decide)
  · intro error after ⟨held, world, unable⟩
    exact stops held world fun both => unable both.1

def verdict (self : Coordinator) (sagaId : String) (able : Prop) (refused : Bool) :
    Retreat (noted : Machine (coordinatorFace Args) _) self sagaId where
  falling := fun state =>
    Rolling self sagaId able refused (completed state.memory sagaId).reverse state
  rolling := Rolling self sagaId able refused
  undone := Undone sagaId able refused
  enters := by
    intro state rolling
    unfold writeStatus completedSteps
    rw [wp_bind, wp_ite]
    split
    · apply wp_write_state trivial
      apply wp_memory trivial
      exact ⟨rolling.held, rolling.noted, rolling.able⟩
    · apply wp_memory trivial
      exact rolling
  undoes := wp_undo
  closes := by
    intro state rolling
    obtain ⟨entry, found⟩ := rolling.held
    have undone : ∀ store : Store Args, Undone sagaId able refused { state with
        store, memory := ((MemoryCall.setStatusIfActive sagaId .rolledBack).serve
          state.memory).2 } := by
      intro store
      refine ⟨(.rolledBack, entry.2), false, ?_, rolling.noted, ?_⟩
      · dsimp only
        rw [posted_set_status_if_active, found, Option.map_some, if_pos rfl]
      · exact ⟨fun _ => ⟨rolling.able.mp claimable_nil, rfl⟩, fun _ => rfl⟩
    unfold closeRollback writeStatus
    rw [wp_bind]
    apply wp_memory trivial
    rw [wp_ite]
    split
    · exact wp_write_state trivial (undone _)
    · exact undone _

theorem wp_rolls_back (state : System Args Outcomes)
    (rolling : Rolling self sagaId able refused (completed state.memory sagaId).reverse state) :
    wp noted (self.executeCompensations sagaId (completedSteps sagaId))
      (fun _ => Undone sagaId able refused) (fun _ _ => False) state :=
  (verdict self sagaId able refused).execute_compensations rolling

end Rollback

section Submission

variable {self : Coordinator} {sagaId : String} {able : Prop} {refused : Bool}
  {stage next : Option EffectState} {step : SagaStep Args} {state : System Args Outcomes}

/-- A new step on its way, with its record in this state. A rollback would find
the other steps as they were. -/
structure Underway (worker : Coordinator) (sagaId stepId : String) (able : Prop) (refused : Bool)
    (stage : Option EffectState) (state : System Args Outcomes) : Prop where
  rolling : Rolling worker sagaId able refused (completed state.memory sagaId).reverse state
  apart : ∀ other ∈ completed state.memory sagaId, other.stepId ≠ stepId
  record : worker.journals = true →
    (state.store.effect? sagaId stepId).map (·.state) = stage

theorem Underway.put (underway : Underway self sagaId step.stepId able refused stage state)
    (entry : Effect Args) (own : entry.stepId = step.stepId) :
    Underway self sagaId step.stepId able refused (some entry.state)
      { state with store := state.store.putEffect sagaId entry } := by
  constructor
  · refine ⟨underway.rolling.held, underway.rolling.noted, ?_⟩
    dsimp only
    rw [claimable_put]
    · exact underway.rolling.able
    · intro other member
      rw [own]
      exact underway.apart other (List.mem_reverse.mp member)
  · exact underway.apart
  · intro _
    dsimp only
    rw [Store.effect_put_effect, if_pos ⟨rfl, own⟩, Option.map_some]

theorem Underway.noting (underway : Underway self sagaId step.stepId able refused stage state)
    (later : Bool) :
    Underway self sagaId step.stepId able later stage { state with world := ⟨later, false⟩ } :=
  ⟨⟨underway.rolling.held, rfl, underway.rolling.able⟩, underway.apart, underway.record⟩

variable [DecidableEq Args]

theorem wp_underway {expected : List EffectState} {current newState : EffectState}
    {result : Option Args} {error : Option String} {post : Effect Args → System Args Outcomes → Prop}
    {failed : PyError → System Args Outcomes → Prop}
    (underway : Underway self sagaId step.stepId able refused (some current) state)
    (journals : self.journals = true) (legal : current ∈ expected)
    (done : ∀ effect after,
      Underway self sagaId step.stepId able refused (some newState) after → post effect after) :
    wp noted (onStore (.transitionEffect sagaId step.stepId expected newState result error)) post
      failed state := by
  obtain ⟨effect, found, same⟩ := Option.map_eq_some_iff.mp (underway.record journals)
  apply wp_transition trivial
  · intro entry known _
    apply done
    have own : entry.stepId = step.stepId := Table.find_key known
    exact underway.put { entry with state := newState, result, error } own
  · intro refusal illegal
    exact absurd (same ▸ legal) (illegal effect found)

theorem wp_mark_executing (underway : Underway self sagaId step.stepId able refused none state) :
    wp noted (self.markExecuting sagaId step)
      (fun _ => Underway self sagaId step.stepId able refused (some .executing))
      (fun _ _ => False) state := by
  unfold markExecuting
  rw [wp_ite]
  split
  · rename_i journals
    have unknown : state.store.effect? sagaId step.stepId = none :=
      Option.map_eq_none_iff.mp (underway.record journals)
    rw [wp_bind, wp_flagged]
    apply wp_prepare_new trivial unknown
    intro entry shape
    have own : entry.stepId = step.stepId := by rw [shape]
    have prepared := underway.put entry own
    have stage : entry.state = .prepared := by rw [shape]
    rw [stage] at prepared
    rw [wp_bind, wp_flagged]
    exact wp_underway prepared journals (List.mem_singleton.mpr rfl) fun _ _ underway => underway
  · rename_i unjournaled
    exact ⟨underway.rolling, underway.apart, fun journals => absurd journals unjournaled⟩

theorem wp_mark_applied [Inhabited Args] {result : ExecuteResult Args}
    (underway : Underway self sagaId step.stepId able refused (some .executing) state) :
    wp noted (self.markApplied sagaId step result)
      (fun _ => Underway self sagaId step.stepId able refused (some .applied))
      (fun _ _ => False) state := by
  unfold markApplied
  rw [wp_ite]
  split
  · rename_i journals
    rw [wp_bind, wp_flagged]
    exact wp_underway underway journals (List.mem_singleton.mpr rfl) fun _ _ underway => underway
  · rename_i unjournaled
    exact ⟨underway.rolling, underway.apart, fun journals => absurd journals unjournaled⟩

theorem wp_publish_step (applied : self.journals = true →
      (state.store.effect? sagaId step.stepId).map (·.state) = some .applied) :
    wp noted (self.publishStep sagaId step) (fun _ after => after.world = state.world)
      (fun _ _ => False) state := by
  unfold publishStep
  rw [wp_ite]
  split
  · rename_i journals
    obtain ⟨effect, found, same⟩ := Option.map_eq_some_iff.mp (applied journals)
    rw [wp_bind, wp_flagged]
    apply wp_commit trivial
    · exact fun entry _ _ => rfl
    · exact fun refusal illegal => absurd same (illegal effect found)
  · unfold publishUnjournaled
    rw [wp_flagged, wp_ite]
    split
    · rw [wp_bind, wp_on_store]
      refine ⟨trivial, ?_⟩
      rw [StoreCall.serve, replied_ok, wp_ite]
      split
      · rw [wp_on_store]
        exact ⟨trivial, rfl⟩
      · rfl
    · rfl

/-- Once the sandbox has executed the step nothing is in its way. -/
theorem wp_commit_step [Inhabited Args] {result : ExecuteResult Args}
    (underway : Underway self sagaId step.stepId able refused (some .executing) state) :
    wp noted (self.commitStep sagaId step result)
      (fun _ after => after.world.refused = refused) (fun _ _ => False) state := by
  unfold commitStep
  apply wp_seq (wp_mark_applied underway)
  intro _ between underway
  dsimp only
  rw [wp_bind, wp_flagged]
  apply wp_memory trivial
  rw [wp_bind]
  apply wp_mono (wp_publish_step _)
  · intro _ after same
    have world : after.world.refused = refused := by
      rw [same]
      exact congrArg Outcomes.refused underway.rolling.noted
    unfold recordHistory
    rw [wp_bind, wp_flagged, wp_ite]
    split
    · exact wp_record_step trivial world
    · exact world
  · exact fun _ _ impossible => impossible
  · exact underway.record

theorem wp_abort_step {result : ExecuteResult Args}
    (underway : Underway self sagaId step.stepId able refused (some .executing) state) :
    wp noted (self.abortStep sagaId step result : Program (coordinatorFace Args) StepFault
        (SagaStep Args)) (fun _ _ => False)
      (fun _ after => Rolling self sagaId able refused
        (completed after.memory sagaId).reverse after) state := by
  unfold abortStep
  rw [wp_ite]
  split
  · rename_i journals
    rw [wp_bind, wp_flagged]
    exact wp_underway underway journals (List.mem_singleton.mpr rfl)
      fun _ _ underway => underway.rolling
  · exact underway.rolling

theorem wp_execute_step [Inhabited Args]
    (underway : Underway self sagaId step.stepId able false none state) :
    wp noted (self.executeStep sagaId step) (fun _ after => after.world.refused = false)
      (fun _ after => Rolling self sagaId able true
        (completed after.memory sagaId).reverse after) state := by
  apply execute_step_rule (Underway self sagaId step.stepId able false (some .executing))
  case marks =>
    apply wp_unfailing (wp_mark_executing underway)
    exact fun _ _ underway => underway
  case runs =>
    intro between underway
    apply wp_outside trivial
    · intro result world answered
      change world = between.world.note _ _ at answered
      rw [underway.rolling.noted] at answered
      split
      · rename_i succeeded
        have same : world = ⟨false, false⟩ := by
          rw [answered, Outcomes.note, succeeded]
          rfl
        subst same
        apply wp_unfailing (wp_commit_step (underway.noting false))
        exact fun _ _ accepted => accepted
      · rename_i failed
        have unsuccessful : result.succeeded = false := by simpa using failed
        have same : world = ⟨true, false⟩ := by
          rw [answered, Outcomes.note, unsuccessful]
          rfl
        subst same
        apply wp_mono (wp_abort_step (underway.noting true))
        · exact fun _ _ impossible => impossible.elim
        · exact fun _ _ rolling => rolling
    · intro error world answered
      change world = between.world.note _ _ at answered
      rw [underway.rolling.noted] at answered
      subst answered
      exact (underway.noting true).rolling

theorem wp_attempt_new [Inhabited Args] {before after : List (SagaStep Args)}
    (ungated : step.requiresApproval = false)
    (underway : Underway self sagaId step.stepId able false none state) :
    wp noted (self.attemptStep sagaId before step after)
      (fun outcome last => match outcome with
        | some _ => last.world.refused = false
        | none => Undone sagaId able true last)
      (fun _ last => Rolling self sagaId able true (completed last.memory sagaId).reverse last)
      state := by
  let accepted (between : System Args Outcomes) : Prop :=
    between = { state with world := ⟨false, false⟩ }
  let refused (between : System Args Outcomes) : Prop :=
    Rolling self sagaId able true (completed between.memory sagaId).reverse between
  have refuses : ∀ {world : Outcomes}, world = ⟨true, false⟩ → refused { state with world } := by
    intro world same
    subst same
    exact (underway.noting true).rolling
  apply attempt_step_rule accepted refused accepted
  case verifies =>
    apply wp_outside trivial
    · intro answer world answered
      change world = state.world.note _ _ at answered
      rw [underway.rolling.noted] at answered
      split
      · rename_i accepts
        change { state with world } = _
        rw [answered, Outcomes.note, accepts]
        rfl
      · rename_i rejected
        have unaccepted : answer.1 = false := by simpa using rejected
        apply refuses
        rw [answered, Outcomes.note, unaccepted]
        rfl
    · intro error world answered
      change world = state.world.note _ _ at answered
      rw [underway.rolling.noted] at answered
      exact refuses answered
  case checks =>
    intro between same
    rw [show between = { state with world := ⟨false, false⟩ } from same]
    unfold preflight
    rw [wp_ite]
    split
    · apply wp_outside trivial
      · intro _ world answered
        obtain rfl : world = ⟨false, false⟩ := answered
        rfl
      · exact fun error world answered => refuses answered
    · rfl
  case waits =>
    intro between _ gate
    rw [ungated] at gate
    cases gate
  case executes =>
    intro between same _
    rw [show between = { state with world := ⟨false, false⟩ } from same]
    apply wp_mono (wp_execute_step (underway.noting false))
    · exact fun _ _ accepted => accepted
    · exact fun _ _ rolling => rolling
  case retreats =>
    intro between rolling
    apply wp_unfailing (wp_rolls_back _ rolling)
    exact fun _ _ undone => undone

theorem wp_fail_step {fault : StepFault}
    (rolling : Rolling self sagaId able refused (completed state.memory sagaId).reverse state) :
    wp noted (self.failStep sagaId step fault) (fun _ => Undone sagaId able refused)
      (fun _ _ => False) state := by
  have letters : ∀ (stepName error : String) {between : System Args Outcomes},
      Undone sagaId able refused between →
      wp noted (deadLetterRecovery sagaId stepName error) (fun _ => Undone sagaId able refused)
        (fun _ _ => False) between := by
    intro stepName error between undone
    unfold deadLetterRecovery
    rw [wp_bind]
    apply wp_write_state trivial
    exact wp_push_dead_letter trivial undone
  apply fail_step_rule (Undone sagaId able refused)
  case compensates => exact wp_rolls_back state rolling
  case quarantines =>
    intro between undone _ _
    unfold quarantineStep
    rw [wp_bind, wp_attempt, wp_bind]
    apply wp_transition trivial
    · exact fun entry _ _ => letters _ _ undone
    · exact fun refusal _ => letters _ _ undone
  case rests => exact fun undone _ => undone

/-- A batch of one new step commits if nothing is refused, and is rolled back if
anything is. -/
theorem wp_submission [Inhabited Args] (ungated : step.requiresApproval = false)
    (unkeyed : step.idempotencyKey = none)
    (underway : Underway self sagaId step.stepId able false none state) :
    wp noted (self.executeSaga sagaId [step])
      (fun ok after => if ok then after.world.refused = false else Undone sagaId able true after)
      (fun _ _ => (state.memory.active.find? sagaId).isSome = false) state := by
  let ready (steps : List (SagaStep Args)) (between : System Args Outcomes) : Prop :=
    (steps = [step] ∧ between = state) ∨ (steps = [] ∧ between.world.refused = false)
  unfold executeSaga
  rw [wp_bind]
  apply wp_memory trivial
  rw [wp_ite]
  split
  · apply execute_steps_rule (fun _ => ready) fun _ step rest => ready (step :: rest)
    case closes =>
      intro _ between ending
      have accepted : between.world.refused = false := by
        rcases ending with ⟨impossible, _⟩ | ⟨_, accepted⟩
        · cases impossible
        · exact accepted
      unfold closeBatch writeStatus
      rw [wp_bind]
      apply wp_memory trivial
      rw [wp_bind, wp_ite]
      split
      · apply wp_write_state trivial
        exact wp_memory trivial accepted
      · exact wp_memory trivial accepted
    case asks =>
      intro _ next rest between here
      rcases here with ⟨whole, same⟩ | ⟨impossible, _⟩
      · obtain ⟨rfl, rfl⟩ := List.cons.inj whole
        unfold alreadyCommitted
        rw [unkeyed, if_neg (by simp [truthy]), wp_pure, if_neg (by decide)]
        exact .inl ⟨rfl, same⟩
      · cases impossible
    case attempts =>
      intro _ next rest between here
      rcases here with ⟨whole, same⟩ | ⟨impossible, _⟩
      · obtain ⟨rfl, rfl⟩ := List.cons.inj whole
        rw [same]
        apply wp_mono (wp_attempt_new _ _)
        · intro outcome last reached
          cases outcome with
          | some committed => exact .inr ⟨rfl, reached⟩
          | none => exact reached
        · intro fault last rolling
          apply wp_unfailing (wp_fail_step rolling)
          exact fun _ _ undone => undone
        · exact ungated
        · exact underway
      · cases impossible
    case here => exact .inl ⟨rfl, rfl⟩
  · rename_i unknown
    exact Bool.eq_false_iff.mpr unknown

end Submission

/-- The two interfaces. A submission gets a new identity. -/
inductive Endpoint (Args : Type) where
  | reject (sagaId : String)
  | submit (stepId : String) (request : StepProposal Args)

namespace Endpoint

def sagaId : Endpoint Args → String
  | .reject sagaId => sagaId
  | .submit _ request => request.sagaId

def program [DecidableEq Args] [Inhabited Args] (self : Coordinator) :
    Endpoint Args → Action Args Reply
  | .reject sagaId => self.rejectSagaStep sagaId
  | .submit stepId request => self.submitStep stepId request

/-- `uuid.uuid4()` gives an identity that nothing has. -/
def New (store : Store Args) (memory : Memory Args) : Endpoint Args → Prop
  | .reject _ => True
  | .submit stepId request => store.effect? request.sagaId stepId = none ∧
      ∀ step ∈ completed memory request.sagaId, step.stepId ≠ stepId

/-- The call makes the coordinator roll the saga back: a step that waits is
rejected, or a submitted one is refused. -/
def RollsBack (memory : Memory Args) (outcomes : Outcomes) : Endpoint Args → Prop
  | .reject sagaId => (ApiCall.reject sagaId : ApiCall Args).enters memory = true
  | .submit _ request =>
      (memory.active.find? request.sagaId).isSome = true ∧ outcomes.refused = true

end Endpoint

/-- The reply claims a rollback only if the coordinator reports one. -/
def Truthful (reply : Reply) (memory : Memory Args) (sagaId : String) : Prop :=
  reply = .status .rolledBack → getSagaStatus memory sagaId = some .rolledBack

section Replies

variable [DecidableEq Args] [Inhabited Args] {self : Coordinator} {sagaId : String}
  {store : Store Args} {memory : Memory Args}

omit [DecidableEq Args] [Inhabited Args] in
theorem posted_status {entry : SagaStatus × List (SagaStep Args)}
    (found : posted memory sagaId = some entry) : getSagaStatus memory sagaId = some entry.1 := by
  obtain ⟨saga, held, rfl⟩ := Option.map_eq_some_iff.mp found
  rw [getSagaStatus, held]
  rfl

omit [DecidableEq Args] [Inhabited Args] in
theorem undone_truthful {able : Prop} {refused : Bool} {state : System Args Outcomes}
    (undone : Undone sagaId able refused state) :
    Truthful (.status .rolledBack) state.memory sagaId ↔ able ∧ state.world.failed = false := by
  obtain ⟨entry, failed, found, world, completed⟩ := undone
  unfold Truthful
  rw [posted_status found, world, ← completed]
  simp

omit [DecidableEq Args] [Inhabited Args] in
theorem other_truthful {reply : Reply} (other : reply ≠ .status .rolledBack) :
    Truthful reply memory sagaId :=
  fun same => absurd same other

omit [DecidableEq Args] [Inhabited Args] in
theorem claimable_reverse (steps : List (SagaStep Args)) :
    Claimable self sagaId steps.reverse store ↔ Claimable self sagaId steps store := by
  simp [Claimable, List.map_reverse, List.nodup_reverse]

omit [DecidableEq Args] [Inhabited Args] in
theorem starts_rolling {saga : SagaTransaction Args}
    (held : memory.active.find? sagaId = some saga) (steps : List (SagaStep Args)) :
    Rolling self sagaId (Claimable self sagaId steps store) false steps.reverse
      ⟨store, memory, {}⟩ := by
  refine ⟨⟨(saga.status, saga.pendingSteps), ?_⟩, rfl, claimable_reverse steps⟩
  unfold posted
  rw [held]
  rfl

omit [Inhabited Args] in
theorem wp_reject :
    wp noted (self.rejectSagaStep sagaId)
      (fun reply after => Truthful reply after.memory sagaId ↔
        ((ApiCall.reject sagaId : ApiCall Args).enters memory = true →
          Claimable self sagaId (completed memory sagaId) store ∧ after.world.failed = false))
      (fun _ _ => True) ⟨store, memory, {}⟩ := by
  have unrolled : ∀ {reply : Reply} {after : System Args Outcomes},
      (ApiCall.reject sagaId : ApiCall Args).enters memory = false → reply ≠ .status .rolledBack →
      (Truthful reply after.memory sagaId ↔
        ((ApiCall.reject sagaId : ApiCall Args).enters memory = true →
          Claimable self sagaId (completed memory sagaId) store ∧ after.world.failed = false)) := by
    intro reply after turned other
    rw [turned]
    exact iff_of_true (other_truthful other) fun entered => by cases entered
  unfold rejectSagaStep
  rw [wp_bind]
  apply wp_memory trivial
  dsimp only [MemoryCall.serve]
  cases held : memory.active.find? sagaId with
  | none =>
      have turned : (ApiCall.reject sagaId : ApiCall Args).enters memory = false := by
        simp [ApiCall.enters, held]
      exact unrolled turned (by simp)
  | some saga =>
      dsimp only
      unfold rejectPending
      rw [wp_attempt, wp_bind, wp_bind]
      apply wp_memory trivial
      dsimp only [MemoryCall.serve]
      rw [held]
      dsimp only
      rw [wp_ite]
      split
      · rename_i moved
        have turned : (ApiCall.reject sagaId : ApiCall Args).enters memory = false := by
          simp [ApiCall.enters, held, moved]
        exact unrolled turned (by simp)
      · rename_i waits
        rw [not_not] at waits
        have entered : (ApiCall.reject sagaId : ApiCall Args).enters memory = true := by
          simp [ApiCall.enters, held, waits]
        have dropped : ((MemoryCall.setPending sagaId []).serve memory).2.active.find? sagaId =
            some { saga with pendingSteps := [] } := Memory.find_amend held rfl
        rw [wp_bind]
        apply wp_memory trivial
        have rolling : ∀ later : Store Args, later.effects = store.effects →
            Rolling self sagaId (Claimable self sagaId (completed memory sagaId) store) false
              (completed ((MemoryCall.setPending sagaId []).serve memory).2 sagaId).reverse
              ⟨later, ((MemoryCall.setPending sagaId []).serve memory).2, {}⟩ := by
          intro later same
          have steps : completed ((MemoryCall.setPending sagaId []).serve memory).2 sagaId =
              completed memory sagaId := by
            simp [completed, Memory.held?, dropped, held]
          have able : Claimable self sagaId (completed memory sagaId) store ↔
              Claimable self sagaId (completed memory sagaId) later := by
            unfold Claimable Store.effect?
            rw [same]
          rw [steps, able]
          exact starts_rolling dropped _
        have replies : ∀ {after : System Args Outcomes},
            Undone sagaId (Claimable self sagaId (completed memory sagaId) store) false after →
            (Truthful (.status .rolledBack) after.memory sagaId ↔
              ((ApiCall.reject sagaId : ApiCall Args).enters memory = true →
                Claimable self sagaId (completed memory sagaId) store ∧
                  after.world.failed = false)) := by
          intro after undone
          rw [undone_truthful undone]
          exact ⟨fun able _ => able, fun able => able entered⟩
        rw [wp_bind]
        unfold writeStatus
        rw [wp_ite]
        split
        · have written := rolling (store.writeTransactionState sagaId .compensating
            { pendingSteps := some [] }) rfl
          apply wp_write_state trivial
          rw [wp_bind]
          apply wp_unfailing (wp_rolls_back ⟨_, _, _⟩ written)
          exact fun _ _ undone => replies undone
        · rw [wp_pure, wp_bind]
          apply wp_unfailing (wp_rolls_back _ (rolling _ rfl))
          exact fun _ _ undone => replies undone

theorem wp_submit {stepId : String} {request : StepProposal Args}
    (unknown : store.effect? request.sagaId stepId = none)
    (apart : ∀ step ∈ completed memory request.sagaId, step.stepId ≠ stepId) :
    wp noted (self.submitStep stepId request)
      (fun reply after => Truthful reply after.memory request.sagaId ↔
        ((memory.active.find? request.sagaId).isSome = true ∧ after.world.refused = true →
          Claimable self request.sagaId (completed memory request.sagaId) store ∧
            after.world.failed = false))
      (fun _ _ => True) ⟨store, memory, {}⟩ := by
  unfold submitStep
  rw [wp_bind]
  apply wp_memory trivial
  dsimp only [MemoryCall.serve]
  cases held : memory.active.find? request.sagaId with
  | none =>
      apply iff_of_true
      · exact other_truthful (by simp)
      · intro entered
        cases entered.1
  | some saga =>
      have underway : Underway self request.sagaId (proposalToStep stepId request).stepId
          (Claimable self request.sagaId (completed memory request.sagaId) store) false none
          ⟨store, memory, {}⟩ := by
        constructor
        · exact starts_rolling held _
        · exact apart
        · intro _
          dsimp only [proposalToStep]
          rw [unknown]
          rfl
      dsimp only
      rw [wp_bind]
      apply wp_mono (wp_submission rfl rfl underway)
      · intro ok after ends
        rw [wp_pure]
        cases ok with
        | true =>
            rw [if_pos rfl] at ends ⊢
            apply iff_of_true
            · exact other_truthful (by simp)
            · intro entered
              rw [ends] at entered
              cases entered.2
        | false =>
            rw [if_neg (by decide)] at ends ⊢
            have refused : after.world.refused = true := by
              obtain ⟨entry, failed, _, world, _⟩ := ends
              rw [world]
            rw [undone_truthful ends]
            exact ⟨fun able _ => able, fun able => able ⟨rfl, refused⟩⟩
      · exact fun _ _ _ => trivial

/-- What the interfaces answer is true exactly when every rollback that the call
makes can claim the records of the completed steps and no compensation fails. -/
theorem rolled_back_reply_iff {endpoint : Endpoint Args} (new : endpoint.New store memory)
    {reply : Reply} {after : System Args Outcomes}
    (run : Steps noted (endpoint.program self) ⟨store, memory, {}⟩ (.done reply) after) :
    Truthful reply after.memory endpoint.sagaId ↔
      (endpoint.RollsBack memory after.world →
        Claimable self endpoint.sagaId (completed memory endpoint.sagaId) store ∧
          after.world.failed = false) := by
  cases endpoint with
  | reject sagaId => exact wp_steps wp_reject run
  | submit stepId request => exact wp_steps (wp_submit new.1 new.2) run

end Replies

section Examples

def waitingMemory : Memory Unit where
  active := Table.empty.put
    { sagaId := "s", tenantId := "", goal := "", status := .awaitingApproval
      completedSteps := [{ sampleStep "a" none with status := .committed }]
      pendingSteps := [{ sampleStep "b" none with requiresApproval := true }] }
  released := .empty

def doneStore : Store Unit :=
  Store.empty.putEffect "s"
    { sagaId := "s", stepId := "a", seq := 1, stepName := "a", action := ⟨"pay", ()⟩
      compensation := ⟨"refund", ()⟩, idempotencyKey := none, state := .committed
      result := some (), error := none }

def rejected (kind : StoreKind)
    (outcome : (request : OutsideCall Unit) → Except PyError request.Answer) :
    Action Unit Reply × System Unit Outcomes :=
  simulate (answerWith noting fun request world => (outcome request, world.note request (outcome request)))
    30 ((Endpoint.reject "s").program { store := kind }) ⟨doneStore, waitingMemory, {}⟩

theorem rejected_steps (kind : StoreKind)
    (outcome : (request : OutsideCall Unit) → Except PyError request.Answer) :
    Steps noted ((Endpoint.reject "s").program { store := kind }) ⟨doneStore, waitingMemory, {}⟩
      (rejected kind outcome).1 (rejected kind outcome).2 :=
  simulate_steps (answer_with_honest fun _ _ => rfl) 30 _ _

/-- The saga is rolled back, and its journal has the compensated record. -/
theorem completed_rejection_truthful :
    Truthful (.status .rolledBack) (rejected .journaled accepting).2.memory "s" ∧
      ((rejected .journaled accepting).2.store.effect? "s" "a").map (·.state) =
        some .compensated := by
  constructor
  · have run : Steps noted ((Endpoint.reject "s" : Endpoint Unit).program { store := .journaled })
        ⟨doneStore, waitingMemory, {}⟩ (.done (.status .rolledBack))
        (rejected .journaled accepting).2 :=
      rejected_steps .journaled accepting
    have exact_iff := @rolled_back_reply_iff Unit _ _ { store := .journaled } doneStore
      waitingMemory (.reject "s") trivial _ _ run
    apply exact_iff.mpr
    intro _
    constructor
    · intro _
      refine ⟨by decide, fun step member => ?_⟩
      obtain rfl := List.mem_singleton.mp member
      exact ⟨_, rfl, rfl⟩
    · decide
  · decide

/-- Every reply of the coordinator that claims a rollback is true. -/
def AnswersTruthfully (self : Coordinator) : Prop :=
  ∀ (endpoint : Endpoint Unit) (store : Store Unit) (memory : Memory Unit),
    endpoint.New store memory → ∀ (reply : Reply) (after : System Unit Outcomes),
      Steps noted (endpoint.program self) ⟨store, memory, {}⟩ (.done reply) after →
      Truthful reply after.memory endpoint.sagaId

/-- The compensation returns `False`, and the endpoint answers `ROLLED_BACK`,
with a store of any kind. -/
theorem failed_rejection_untruthful :
    ¬∃ kind : StoreKind, AnswersTruthfully { store := kind } := by
  rintro ⟨kind, claim⟩
  have replied : (rejected kind failing).1 = .done (.status .rolledBack) := by
    cases kind <;> rfl
  have status : getSagaStatus (rejected kind failing).2.memory "s" = some .compensationFailed := by
    cases kind <;> decide
  have run := rejected_steps kind failing
  rw [replied] at run
  have claimed := claim (.reject "s") doneStore waitingMemory trivial _ _ run rfl
  dsimp only [Endpoint.sagaId] at claimed
  rw [status] at claimed
  cases claimed

end Examples

end SagaMind.RollbackReplies
