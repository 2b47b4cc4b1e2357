import SagaMind.Coordinator.Lifetime
import SagaMind.Coordinator.Turns

/-!
# The gate that a batch comes to

Which steps of a batch are skipped and which the journal takes can be read off
the store before the call. Where the verifier and the sandbox oblige, the batch
then executes what is ahead of its first unapproved gate and nothing else.
-/

namespace SagaMind.WaitingWork

open CallProgram KeyedTable Coordinator

set_option autoImplicit false

variable {Args : Type}

/-- The verifier accepts, the checks of the sandbox pass and actions succeed. -/
def obliges : (request : OutsideCall Args) → Except PyError request.Answer → Prop
  | .verify .., reply => ∃ explanation, reply = .ok (true, explanation)
  | .validate _, reply => reply = .ok ()
  | .execute .., reply => ∃ result, reply = .ok result ∧ result.succeeded = true
  | _, _ => True

def obliging : Outside Args Unit where
  respond := fun request _ reply _ => obliges request reply
  observe := fun _ _ world => world

def skips (store : Store Args) (sagaId : String) (done : List (SagaStep Args))
    (step : SagaStep Args) : Bool :=
  truthy step.idempotencyKey &&
    (store.stepAlreadyCommitted sagaId (step.idempotencyKey.getD "") ||
      done.any fun earlier => earlier.idempotencyKey = step.idempotencyKey)

/-- Of the saga, the store has what it had, the keys of these steps and records
under the identities of those. -/
structure Abreast (store : Store Args) (sagaId : String) (keyed filed : List (SagaStep Args))
    (state : System Args Unit) : Prop where
  published : ∀ key, state.store.stepAlreadyCommitted sagaId key = true ↔
    store.stepAlreadyCommitted sagaId key = true ∨
      key ≠ "" ∧ some key ∈ keyed.map (·.idempotencyKey)
  untouched : ∀ stepId ∉ filed.map (·.stepId),
    state.store.effect? sagaId stepId = store.effect? sagaId stepId

structure Midway (worker : Coordinator) (store : Store Args) (sagaId : String)
    (done : List (SagaStep Args)) (step : SagaStep Args) (phase : EffectState)
    (state : System Args Unit) : Prop where
  abreast : Abreast store sagaId done (step :: done) state
  record : worker.journals = true →
    ∃ effect, state.store.effect? sagaId step.stepId = some effect ∧ effect.state = phase

section Stores

variable {store : Store Args} {sagaId : String} {keyed filed done : List (SagaStep Args)}
  {step : SagaStep Args} {state : System Args Unit} {self : Coordinator} {phase : EffectState}

theorem published_iff (current : Store Args) (given : Option String) (key : String) :
    (current.publish sagaId given).stepAlreadyCommitted sagaId key = true ↔
      current.stepAlreadyCommitted sagaId key = true ∨ key ≠ "" ∧ given = some key := by
  unfold Store.publish
  cases given with
  | none => simp [truthy]
  | some given =>
      by_cases blank : given = ""
      · subst blank
        rw [if_neg (by simp [truthy])]
        constructor
        · exact .inl
        · rintro (known | ⟨filled, same⟩)
          · exact known
          · exact absurd (Option.some.inj same).symm filled
      · rw [if_pos (by simp [truthy, blank])]
        simp only [Store.stepAlreadyCommitted, Store.markStepCommitted, Function.update_self,
          Option.getD_some, decide_eq_true_eq, Finset.mem_insert, Option.some.injEq]
        constructor
        · rintro (rfl | known)
          · exact .inr ⟨blank, rfl⟩
          · exact .inl known
        · rintro (known | ⟨_, rfl⟩)
          · exact .inr known
          · exact .inl rfl

theorem Abreast.start (current : System Args Unit) : Abreast current.store sagaId [] [] current where
  published := by simp
  untouched := fun _ _ => rfl

theorem Abreast.files (abreast : Abreast store sagaId keyed (step :: done) state)
    {effect : Effect Args} (own : effect.stepId = step.stepId) :
    Abreast store sagaId keyed (step :: done)
      { state with store := state.store.putEffect sagaId effect } := by
  constructor
  · exact abreast.published
  · intro stepId other
    have apart : effect.stepId ≠ stepId := by
      rintro rfl
      exact other (own ▸ List.mem_cons_self ..)
    dsimp only
    rw [Store.effect_put_effect, if_neg fun both => apart both.2]
    exact abreast.untouched stepId other

theorem Abreast.publishes (abreast : Abreast store sagaId done filed state) :
    Abreast store sagaId (step :: done) filed
      { state with store := state.store.publish sagaId step.idempotencyKey } := by
  constructor
  · intro key
    dsimp only
    rw [published_iff, abreast.published, List.map_cons, List.mem_cons, or_assoc, ← and_or_left]
    have turned : some key ∈ done.map (·.idempotencyKey) ∨ step.idempotencyKey = some key ↔
        some key = step.idempotencyKey ∨ some key ∈ done.map (·.idempotencyKey) := by
      rw [or_comm, eq_comm]
    rw [turned]
  · intro stepId other
    dsimp only
    rw [Store.effect_publish]
    exact abreast.untouched stepId other

theorem Abreast.skips (abreast : Abreast store sagaId done filed state) :
    skips store sagaId done step = (truthy step.idempotencyKey &&
      state.store.stepAlreadyCommitted sagaId (step.idempotencyKey.getD "")) := by
  cases own : step.idempotencyKey with
  | none => simp [WaitingWork.skips, own, truthy]
  | some key =>
      rw [Bool.eq_iff_iff, Bool.and_eq_true, Option.getD_some, abreast.published]
      simp [WaitingWork.skips, own, truthy]
      tauto

end Stores

variable [DecidableEq Args]

/-- The journal has no record under the identity of the step, or one of the same
effect that was never started. -/
def takes (self : Coordinator) (store : Store Args) (sagaId : String)
    (done : List (SagaStep Args)) (step : SagaStep Args) : Bool :=
  self.journals = true → step.stepId ∉ done.map (·.stepId) ∧
    (store.effect? sagaId step.stepId).all fun effect =>
      effect.state = .prepared ∧ Store.sameEffect effect step.stepName step.action
        step.compensation step.idempotencyKey

/-- The batch comes to a gate with these steps still ahead, after steps that are
done already or that the journal takes. -/
def comesToGate (self : Coordinator) (store : Store Args) (sagaId : String)
    (pending : List (SagaStep Args)) : List (SagaStep Args) → List (SagaStep Args) → Bool
  | _, [] => false
  | done, step :: rest =>
      if skips store sagaId done step then comesToGate self store sagaId pending done rest
      else if step.requiresApproval ∧ ¬step.approved then
        pending ⊆ { step with status := .awaitingApproval } :: rest
      else takes self store sagaId done step ∧
        comesToGate self store sagaId pending (step :: done) rest

abbrev obliged : Machine (coordinatorFace Args) (System Args Unit) := serving obliging

section Steps

variable {store : Store Args} {sagaId : String} {done : List (SagaStep Args)}
  {step : SagaStep Args} {state : System Args Unit} {self : Coordinator} {phase : EffectState}
  {failed : PyError → System Args Unit → Prop}

omit [DecidableEq Args] in
theorem Abreast.midway (abreast : Abreast store sagaId done (step :: done) state)
    (effect : Effect Args) (own : effect.stepId = step.stepId) :
    Midway self store sagaId done step effect.state
      { state with store := state.store.putEffect sagaId effect } where
  abreast := abreast.files own
  record := fun _ => ⟨effect, by simp [own], rfl⟩

theorem wp_advances {expected : List EffectState} {newState : EffectState} {result : Option Args}
    {error : Option String} {post : Effect Args → System Args Unit → Prop}
    (midway : Midway self store sagaId done step phase state) (journals : self.journals = true)
    (legal : phase ∈ expected)
    (moved : ∀ effect after, Midway self store sagaId done step newState after → post effect after) :
    wp obliged (onStore (.transitionEffect sagaId step.stepId expected newState result error)) post
      failed state := by
  obtain ⟨effect, found, same⟩ := midway.record journals
  apply wp_transition trivial
  · intro entry known _
    apply moved
    have own : entry.stepId = step.stepId := Table.find_key known
    exact midway.abreast.midway { entry with state := newState, result, error } own
  · intro refusal illegal
    exact absurd (same ▸ legal) (illegal effect found)

theorem wp_marks (abreast : Abreast store sagaId done done state)
    (taken : takes self store sagaId done step = true) :
    wp obliged (self.markExecuting sagaId step)
      (fun _ => Midway self store sagaId done step .executing) (fun _ _ => False) state := by
  have wider : Abreast store sagaId done (step :: done) state := by
    constructor
    · exact abreast.published
    · exact fun stepId other => abreast.untouched stepId fun member => other (List.mem_cons_of_mem _ member)
  unfold markExecuting
  rw [wp_ite]
  split
  · rename_i journals
    obtain ⟨fresh, free⟩ := of_decide_eq_true taken journals
    rw [← abreast.untouched _ fresh] at free
    have starts : ∀ {between : System Args Unit},
        Midway self store sagaId done step .prepared between →
        wp obliged (do
          let _ ← flagged true false (onStore (.transitionEffect sagaId step.stepId [.prepared]
            .executing none none))
          pure ()) (fun _ => Midway self store sagaId done step .executing)
            (fun (_ : StepFault) _ => False) between := by
      intro between midway
      rw [wp_bind, wp_flagged]
      apply wp_advances midway journals
      · exact List.mem_singleton_self _
      · exact fun _ _ midway => midway
    rw [wp_bind, wp_flagged]
    cases known : state.store.effect? sagaId step.stepId with
    | none =>
        apply wp_prepare_new trivial known
        intro entry shape
        apply starts
        have own : entry.stepId = step.stepId := by rw [shape]
        have registered : Midway self store sagaId done step entry.state
            { state with store := state.store.putEffect sagaId entry } := wider.midway entry own
        have prepared : entry.state = .prepared := by rw [shape]
        rw [prepared] at registered
        exact registered
    | some effect =>
        rw [known, Option.all_some, decide_eq_true_eq] at free
        refine (wp_on_store _ _ _ _).mpr ⟨trivial, ?_⟩
        simp only [StoreCall.serve, Store.prepareEffect, known, if_pos free.2, afterStore]
        apply starts
        exact ⟨wider, fun _ => ⟨effect, known, free.1⟩⟩
  · rename_i unjournaled
    exact ⟨wider, fun journals => absurd journals unjournaled⟩

theorem wp_applies [Inhabited Args] (midway : Midway self store sagaId done step .executing state)
    (result : ExecuteResult Args) :
    wp obliged (self.markApplied sagaId step result)
      (fun _ => Midway self store sagaId done step .applied) (fun _ _ => False) state := by
  unfold markApplied
  rw [wp_ite]
  split
  · rename_i journals
    rw [wp_bind, wp_flagged]
    apply wp_advances midway journals
    · exact List.mem_singleton_self _
    · exact fun _ _ midway => midway
  · rename_i unjournaled
    exact ⟨midway.abreast, fun journals => absurd journals unjournaled⟩

/-- With a journal the key is published by the commit of the record, without one
by a call of its own. -/
theorem wp_publishes (stored : self.hasStore = true)
    (midway : Midway self store sagaId done step .applied state) :
    wp obliged (self.publishStep sagaId { step with status := .committed })
      (fun _ => Abreast store sagaId (step :: done) (step :: done)) (fun _ _ => False) state := by
  unfold publishStep
  rw [wp_ite]
  split
  · rename_i journals
    obtain ⟨effect, found, applied⟩ := midway.record journals
    rw [wp_bind, wp_flagged]
    apply wp_commit trivial
    · intro entry known _
      have own : entry.stepId = step.stepId := Table.find_key known
      have filed : Abreast store sagaId done (step :: done) { state with
          store := state.store.putEffect sagaId { entry with state := .committed } } :=
        midway.abreast.files own
      exact filed.publishes
    · exact fun refusal illegal => absurd applied (illegal effect found)
  · have kept : Abreast store sagaId done (step :: done) { state with
        store := state.store.appendCompensation sagaId step.compensation } :=
      ⟨midway.abreast.published, midway.abreast.untouched⟩
    have published : Abreast store sagaId (step :: done) (step :: done) { state with
        store := (state.store.appendCompensation sagaId step.compensation).publish sagaId
          step.idempotencyKey } := kept.publishes
    unfold Store.publish at published
    unfold publishUnjournaled
    rw [wp_flagged, wp_ite, if_pos stored, wp_bind]
    refine (wp_on_store _ _ _ _).mpr ⟨trivial, ?_⟩
    simp only [StoreCall.serve, replied_ok, afterStore]
    rw [wp_ite]
    split
    · rename_i keyed
      rw [if_pos keyed] at published
      exact (wp_on_store _ _ _ _).mpr ⟨trivial, published⟩
    · rename_i unkeyed
      rw [if_neg unkeyed] at published
      exact published

variable [Inhabited Args]

/-- A step that the sandbox reports as done is committed and its key published. -/
theorem wp_commits (stored : self.hasStore = true)
    (midway : Midway self store sagaId done step .executing state) (result : ExecuteResult Args) :
    wp obliged (self.commitStep sagaId step result)
      (fun _ => Abreast store sagaId (step :: done) (step :: done)) (fun _ _ => False) state := by
  unfold commitStep
  apply wp_seq (wp_applies midway result)
  intro _ between midway
  rw [wp_bind, wp_flagged]
  apply wp_memory trivial
  have remembered : ∀ memory,
      Midway self store sagaId done step .applied { between with memory } :=
    fun _ => ⟨⟨midway.abreast.published, midway.abreast.untouched⟩, midway.record⟩
  apply wp_seq (wp_publishes stored (remembered _))
  intro _ between abreast
  rw [wp_bind, wp_flagged]
  unfold recordHistory
  rw [wp_ite, if_pos stored]
  apply wp_record_step trivial
  exact ⟨abreast.published, abreast.untouched⟩

theorem wp_executes (stored : self.hasStore = true) (abreast : Abreast store sagaId done done state)
    (taken : takes self store sagaId done step = true) :
    wp obliged (self.executeStep sagaId step)
      (fun _ => Abreast store sagaId (step :: done) (step :: done)) (fun _ _ => False) state := by
  apply execute_step_rule _ (wp_marks abreast taken)
  intro between midway
  apply wp_outside trivial
  · rintro result world ⟨_, same, succeeded⟩
    obtain rfl := Except.ok.inj same
    rw [if_pos succeeded]
    exact wp_commits stored midway result
  · rintro error world ⟨_, same, _⟩
    cases same

end Steps

end SagaMind.WaitingWork
