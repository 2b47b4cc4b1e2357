import SagaMind.Coordinator.Rules
import SagaMind.Foundation.UndoStack

/-!
# A sandbox that changes a world

Actions and compensations are relations on a world. The site is the world with
a log of what was done to it, and the workshop is an outside that keeps both.
-/

namespace SagaMind.Workshop

open CallProgram KeyedTable Coordinator Undoing

set_option autoImplicit false

variable {Args W : Type}

/-- What actions and compensations do to the world. -/
structure Sandbox (Args W : Type) where
  acts : ActionPayload Args → W → W → Prop
  undoes : ActionPayload Args → W → Except PyError Bool → W → Prop

structure Deed (Args : Type) where
  stepId : String
  action : ActionPayload Args
  compensation : ActionPayload Args

def deed (step : SagaStep Args) : Deed Args := ⟨step.stepId, step.action, step.compensation⟩

def Deed.undoing (deed : Deed Args) : Option String × ActionPayload Args :=
  (some deed.stepId, deed.compensation)

/-- The world with a record of the calls on it. -/
structure Site (Args W : Type) where
  world : W
  /-- Successful executions, newest first. -/
  executed : List (Deed Args) := []
  /-- Compensation calls, oldest first. -/
  compensated : List (Option String × ActionPayload Args) := []
  /-- A verifier or a preflight has rejected, or an action has failed. -/
  failed : Bool := false

/-- The verifier and the preflight check may accept or reject. An action
succeeds, or reports a failed result and leaves the world alone. -/
def workshop (sandbox : Sandbox Args W) : Outside Args (Site Args W) where
  respond
    | .verify .., site, reply, after => after =
        match reply with
        | .ok (accepted, _) => { site with failed := site.failed || !accepted }
        | .error _ => { site with failed := true }
    | .validate _, site, reply, after => after =
        match reply with
        | .ok _ => site
        | .error _ => { site with failed := true }
    | .execute _ step, site, reply, after => ∃ result, reply = .ok result ∧
        if result.succeeded then ∃ world, sandbox.acts step.action site.world world ∧
          after = { site with world, executed := deed step :: site.executed }
        else after = { site with failed := true }
    | .executeCompensation _ stepId compensation, site, reply, after =>
        ∃ world, sandbox.undoes compensation site.world reply world ∧
          after = { site with world, compensated := site.compensated ++ [(stepId, compensation)] }
    | _, site, _, after => after = site
  observe := fun _ _ site => site

def applies (sandbox : Sandbox Args W) (deed : Deed Args) : W → W → Prop :=
  sandbox.acts deed.action

/-- Run in the world that the action left, the compensation succeeds and gives
back the world before it. -/
def Reversible (sandbox : Sandbox Args W) (deed : Deed Args) : Prop :=
  ∀ before between reply after, sandbox.acts deed.action before between →
    sandbox.undoes deed.compensation between reply after → reply = .ok true ∧ after = before

def Remembers (memory : Memory Args) (sagaId : String) (deeds : List (Deed Args)) : Prop :=
  ∃ saga, memory.active.find? sagaId = some saga ∧
    saga.completedSteps.reverse.map deed = deeds

theorem remembers_append {memory : Memory Args} {sagaId : String} {deeds : List (Deed Args)}
    (remembers : Remembers memory sagaId deeds) (step : SagaStep Args) :
    Remembers ((MemoryCall.appendCompleted sagaId step).serve memory).2 sagaId
      (deed step :: deeds) := by
  obtain ⟨saga, found, same⟩ := remembers
  refine ⟨{ saga with completedSteps := saga.completedSteps ++ [step] }, ?_, ?_⟩
  · exact Memory.find_amend found rfl
  · simp [← same]

section Compensation

variable [DecidableEq Args] {World : Type} {outside : Outside Args World} {self : Coordinator}
  {sagaId : String} {step : SagaStep Args} {state : System Args World} {good : World → Prop}

def Unobserved (outside : Outside Args World) : Prop :=
  (∀ sagaId stepId reply world, outside.observe (.getEffect sagaId stepId) reply world = world) ∧
    ∀ sagaId stepId expected newState result error reply world,
      newState = .compensating ∨ newState = .compensated →
      outside.observe (.transitionEffect sagaId stepId expected newState result error) reply
        world = world

/-- One iteration of a rollback: the claim on the record, the compensation, and
the mark. -/
theorem compensates_step (unobserved : Unobserved outside)
    (booked : self.journals = true → ∃ record,
      state.store.effect? sagaId step.stepId = some record ∧ record.state = .committed)
    (answers : ∀ reply world, outside.respond
      (.executeCompensation sagaId (some step.stepId) step.compensation) state.world reply world →
      reply = .ok true ∧ good world) :
    wp (machine outside fun _ => True) (self.compensateStep sagaId step)
      (fun goOn after => goOn = true ∧ after.memory = state.memory ∧ good after.world ∧
        ∀ id, id ≠ step.stepId → after.store.effect? sagaId id = state.store.effect? sagaId id)
      (fun _ _ => False) state := by
  have call : ∀ store : Store Args,
      (self.journals = true → ∃ record, store.effect? sagaId step.stepId = some record ∧
        record.state = .compensating) →
      (∀ id, id ≠ step.stepId → store.effect? sagaId id = state.store.effect? sagaId id) →
      wp (machine outside fun _ => True) (do
        let succeeded ← onOutside
          (.executeCompensation sagaId (some step.stepId) step.compensation)
        if succeeded then
          self.markCompensated sagaId step.stepId
          pure true
        else
          self.handleCompensationFailure sagaId step "Compensation returned False"
          pure false)
        (fun goOn after => goOn = true ∧ after.memory = state.memory ∧ good after.world ∧
          ∀ id, id ≠ step.stepId → after.store.effect? sagaId id = state.store.effect? sagaId id)
        (fun _ _ => False) { state with store } := by
    intro store marked others
    rw [wp_bind]
    apply wp_outside trivial
    · intro succeeded world answered
      obtain ⟨yes, well⟩ := answers _ _ answered
      obtain rfl : succeeded = true := by simpa using yes
      rw [wp_ite, if_pos rfl]
      unfold markCompensated
      rw [wp_bind, wp_ite]
      split
      · rename_i journals
        obtain ⟨record, found, compensating⟩ := marked journals
        rw [wp_bind]
        apply wp_transition trivial
        · intro entry known legal
          have own : entry.stepId = step.stepId := Table.find_key known
          refine ⟨rfl, rfl, ?_, ?_⟩
          · dsimp only [System.stored]
            rw [unobserved.2 _ _ _ _ _ _ _ _ (.inr rfl)]
            exact well
          · intro id apart
            rw [Store.effect_put_effect, if_neg]
            · exact others id apart
            · exact fun both => apart (both.2.symm.trans own)
        · intro refusal illegal
          apply illegal record found
          simp [compensating]
      · exact ⟨rfl, rfl, well, others⟩
    · intro error world answered
      have yes := (answers _ _ answered).1
      cases yes
  unfold compensateStep markCompensating
  rw [wp_bind, wp_ite]
  split
  · rename_i journals
    obtain ⟨record, found, committed⟩ := booked journals
    rw [wp_bind]
    apply wp_get_effect trivial
    · intro effect known
      obtain rfl : record = effect := Option.some.inj (found.symm.trans known)
      rw [wp_ite, if_pos (.inr committed), wp_bind]
      apply wp_transition trivial
      · intro entry known legal
        have own : entry.stepId = step.stepId := Table.find_key known
        dsimp only [System.stored]
        rw [unobserved.1, unobserved.2 _ _ _ _ _ _ _ _ (.inl rfl)]
        apply call
        · exact fun _ => ⟨_, by rw [Store.effect_put_effect, if_pos ⟨rfl, own⟩], rfl⟩
        · intro id apart
          rw [Store.effect_put_effect, if_neg]
          exact fun both => apart (both.2.symm.trans own)
      · intro refusal illegal
        apply illegal record found
        simp [committed]
    · intro error missing
      rw [missing] at found
      cases found
  · rename_i unjournaled
    apply call
    · exact fun journals => absurd journals unjournaled
    · exact fun _ _ => rfl

end Compensation

section Sample

def account : Sandbox Nat Nat where
  acts action before after := after = before + action.arguments
  undoes compensation before reply after :=
    reply = .ok true ∧ after = before - compensation.arguments

def deposit (stepId : String) (amount : Nat) : SagaStep Nat where
  stepId := stepId
  stepName := stepId
  action := ⟨"deposit", amount⟩
  compensation := ⟨"withdraw", amount⟩
  invariants := ""

theorem deposit_reversible (stepId : String) (amount : Nat) :
    Reversible account (deed (deposit stepId amount)) := by
  intro before between reply after acted undone
  have back : between - amount = before := by
    rw [show between = before + amount from acted]
    omega
  exact ⟨undone.1, undone.2.trans back⟩

end Sample

end SagaMind.Workshop
