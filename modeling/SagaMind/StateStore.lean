import Mathlib.Data.Finset.Insert
import SagaMind.Foundation.KeyedTable
import SagaMind.Models

/-!
# Durable saga state store

The memory backend of `SagaStateStore`. Every operation is one atomic section:
it answers or raises, and returns the store it leaves. A journal is a table of
effects filed under `step_id`, in registration order.
-/

namespace SagaMind

open KeyedTable

set_option autoImplicit false

variable {Args : Type}

structure SagaRow (Args : Type) where
  sagaId : String
  status : SagaStatus
  metadata : Metadata Args
  deriving DecidableEq

structure DeadLetter where
  sagaId : String
  tenantId : Option String
  stepName : String
  error : String
  deriving DecidableEq

structure HistoryEntry (Args : Type) where
  stepName : String
  toolName : String
  arguments : Args
  result : Args
  status : StepStatus
  deriving DecidableEq

abbrev Journal (Args : Type) : Type := Table (@Effect.stepId Args)

structure Store (Args : Type) where
  /-- `_state`, in insertion order. -/
  state : Table (@SagaRow.sagaId Args)
  /-- `_comps`, the compensation log of stores without a journal. -/
  comps : String → List (ActionPayload Args)
  /-- `_idem`, the published idempotency keys of each saga. -/
  idem : String → Finset String
  /-- `_dead`, oldest entry first. -/
  dead : List DeadLetter
  /-- `_history`. -/
  history : String → List (HistoryEntry Args)
  /-- `_effects`. -/
  effects : String → Journal Args

/-- One element of `list_incomplete`. -/
structure IncompleteSaga (Args : Type) where
  sagaId : String
  status : SagaStatus
  metadata : Metadata Args
  compensations : List (ActionPayload Args)
  effects : List (Effect Args)

namespace Store

def empty : Store Args where
  state := .empty
  comps := fun _ => []
  idem := fun _ => ∅
  dead := []
  history := fun _ => []
  effects := fun _ => .empty

def status? (store : Store Args) (sagaId : String) : Option SagaStatus :=
  (store.state.find? sagaId).map (·.status)

def effect? (store : Store Args) (sagaId stepId : String) : Option (Effect Args) :=
  (store.effects sagaId).find? stepId

def metadata (store : Store Args) (sagaId : String) : Metadata Args :=
  ((store.state.find? sagaId).map SagaRow.metadata).getD {}

def writeTransactionState (store : Store Args) (sagaId : String) (status : SagaStatus)
    (metadata : Metadata Args) : Store Args :=
  let row := { sagaId, status, metadata := (store.metadata sagaId).update metadata }
  { store with state := store.state.put row }

def putEffect (store : Store Args) (sagaId : String) (effect : Effect Args) : Store Args :=
  { store with
    effects := Function.update store.effects sagaId ((store.effects sagaId).put effect) }

/-- `_assert_same_effect` compares these four fields. -/
def sameEffect [DecidableEq Args] (existing : Effect Args) (stepName : String)
    (action compensation : ActionPayload Args) (idempotencyKey : Option String) : Bool :=
  existing.stepName = stepName ∧ existing.action = action ∧
    existing.compensation = compensation ∧ existing.idempotencyKey = idempotencyKey

def prepareEffect [DecidableEq Args] (store : Store Args) (sagaId stepId stepName : String)
    (action compensation : ActionPayload Args) (idempotencyKey : Option String) :
    Except PyError (Effect Args) × Store Args :=
  match store.effect? sagaId stepId with
  | some existing =>
      if sameEffect existing stepName action compensation idempotencyKey then
        (.ok existing, store)
      else
        (.error (.journalConflict ("Step identity " ++ sagaId ++ "/" ++ stepId ++
          " was reused with a different effect")), store)
  | none =>
      let entry : Effect Args :=
        { sagaId, stepId, stepName, action, compensation, idempotencyKey
          seq := (store.effects sagaId).rows.length + 1
          state := .prepared
          result := none
          error := none }
      (.ok entry, store.putEffect sagaId entry)

/-- `KeyError` of an unregistered effect. -/
def unknownEffect (sagaId stepId : String) : PyError :=
  .key ("Unknown effect " ++ sagaId ++ "/" ++ stepId)

/-- `sorted(expected)`, shown as Python shows a list of strings. -/
def showExpected (expected : List EffectState) : String :=
  let names := (expected.map EffectState.value).mergeSort (fun left right => left ≤ right)
  "[" ++ ", ".intercalate (names.map fun name => "'" ++ name ++ "'") ++ "]"

def transitionEffect (store : Store Args) (sagaId stepId : String)
    (expected : List EffectState) (newState : EffectState) (result : Option Args)
    (error : Option String) : Except PyError (Effect Args) × Store Args :=
  match store.effect? sagaId stepId with
  | none => (.error (unknownEffect sagaId stepId), store)
  | some entry =>
      if entry.state ∈ expected then
        let entry := { entry with state := newState, result, error }
        (.ok entry, store.putEffect sagaId entry)
      else
        (.error (.journalConflict ("Effect " ++ sagaId ++ "/" ++ stepId ++ " is " ++
          entry.state.value ++ "; expected " ++ showExpected expected)), store)

/-- `APPLIED` to `COMMITTED`, publishing the key in the same section. -/
def commitEffect (store : Store Args) (sagaId stepId : String)
    (idempotencyKey : Option String) : Except PyError (Effect Args) × Store Args :=
  match store.effect? sagaId stepId with
  | none => (.error (unknownEffect sagaId stepId), store)
  | some entry =>
      if entry.state = .applied then
        let entry := { entry with state := .committed }
        let committed := store.putEffect sagaId entry
        match idempotencyKey with
        | some key =>
            if key = "" then (.ok entry, committed)
            else (.ok entry, { committed with
              idem := Function.update committed.idem sagaId (insert key (committed.idem sagaId)) })
        | none => (.ok entry, committed)
      else
        (.error (.journalConflict ("Effect " ++ sagaId ++ "/" ++ stepId ++ " is not APPLIED")),
          store)

def getEffect (store : Store Args) (sagaId stepId : String) : Except PyError (Effect Args) :=
  match store.effect? sagaId stepId with
  | none => .error (unknownEffect sagaId stepId)
  | some entry => .ok entry

def stepAlreadyCommitted (store : Store Args) (sagaId key : String) : Bool :=
  key ∈ store.idem sagaId

def markStepCommitted (store : Store Args) (sagaId key : String) : Store Args :=
  { store with idem := Function.update store.idem sagaId (insert key (store.idem sagaId)) }

def appendCompensation (store : Store Args) (sagaId : String)
    (compensation : ActionPayload Args) : Store Args :=
  { store with comps := Function.update store.comps sagaId (store.comps sagaId ++ [compensation]) }

def tenantForSaga (store : Store Args) (sagaId : String) : Option String :=
  (store.state.find? sagaId).bind (·.metadata.tenantId)

def pushDeadLetter (store : Store Args) (sagaId stepName error : String) : Store Args :=
  { store with
    dead := store.dead ++ [{ sagaId, tenantId := store.tenantForSaga sagaId, stepName, error }] }

def recordStep (store : Store Args) (sagaId : String) (entry : HistoryEntry Args) :
    Store Args :=
  { store with history := Function.update store.history sagaId (store.history sagaId ++ [entry]) }

def listIncomplete (store : Store Args) : List (IncompleteSaga Args) :=
  (store.state.rows.filter fun row => !row.status.terminal).map fun row =>
    { sagaId := row.sagaId
      status := row.status
      metadata := row.metadata
      compensations := store.comps row.sagaId
      effects := (store.effects row.sagaId).rows }

section Laws

def publish (store : Store Args) (sagaId : String) (key : Option String) : Store Args :=
  if truthy key then store.markStepCommitted sagaId (key.getD "") else store

@[simp] theorem effect_put_effect (store : Store Args) (sagaId other stepId : String)
    (effect : Effect Args) :
    (store.putEffect sagaId effect).effect? other stepId =
      if other = sagaId ∧ effect.stepId = stepId then some effect
      else store.effect? other stepId := by
  by_cases same : other = sagaId
  · subst same
    simp [putEffect, effect?]
  · simp [putEffect, effect?, same]

@[simp] theorem effect_write_state (store : Store Args) (sagaId other stepId : String)
    (status : SagaStatus) (metadata : Metadata Args) :
    (store.writeTransactionState sagaId status metadata).effect? other stepId =
      store.effect? other stepId := rfl

@[simp] theorem effect_push_dead_letter (store : Store Args)
    (sagaId stepName error other stepId : String) :
    (store.pushDeadLetter sagaId stepName error).effect? other stepId =
      store.effect? other stepId := rfl

@[simp] theorem effect_record_step (store : Store Args) (sagaId other stepId : String)
    (entry : HistoryEntry Args) :
    (store.recordStep sagaId entry).effect? other stepId = store.effect? other stepId := rfl

@[simp] theorem effect_publish (store : Store Args) (sagaId other stepId : String)
    (key : Option String) :
    (store.publish sagaId key).effect? other stepId = store.effect? other stepId := by
  unfold publish
  split <;> rfl

@[simp] theorem state_publish (store : Store Args) (sagaId : String) (key : Option String) :
    (store.publish sagaId key).state = store.state := by
  unfold publish
  split <;> rfl

@[simp] theorem dead_publish (store : Store Args) (sagaId : String) (key : Option String) :
    (store.publish sagaId key).dead = store.dead := by
  unfold publish
  split <;> rfl

@[simp] theorem effects_publish (store : Store Args) (sagaId : String) (key : Option String) :
    (store.publish sagaId key).effects = store.effects := by
  unfold publish
  split <;> rfl

@[simp] theorem comps_publish (store : Store Args) (sagaId : String) (key : Option String) :
    (store.publish sagaId key).comps = store.comps := by
  unfold publish
  split <;> rfl

@[simp] theorem state_put_effect (store : Store Args) (sagaId : String)
    (effect : Effect Args) : (store.putEffect sagaId effect).state = store.state := rfl

@[simp] theorem state_push_dead_letter (store : Store Args) (sagaId stepName error : String) :
    (store.pushDeadLetter sagaId stepName error).state = store.state := rfl

@[simp] theorem state_record_step (store : Store Args) (sagaId : String)
    (entry : HistoryEntry Args) : (store.recordStep sagaId entry).state = store.state := rfl

@[simp] theorem dead_put_effect (store : Store Args) (sagaId : String)
    (effect : Effect Args) : (store.putEffect sagaId effect).dead = store.dead := rfl

@[simp] theorem dead_write_state (store : Store Args) (sagaId : String)
    (status : SagaStatus) (metadata : Metadata Args) :
    (store.writeTransactionState sagaId status metadata).dead = store.dead := rfl

@[simp] theorem dead_record_step (store : Store Args) (sagaId : String)
    (entry : HistoryEntry Args) : (store.recordStep sagaId entry).dead = store.dead := rfl

theorem publish_adds {store : Store Args} {sagaId owner key : String} {given : Option String}
    (published : (store.publish owner given).stepAlreadyCommitted sagaId key = true) :
    store.stepAlreadyCommitted sagaId key = true ∨ sagaId = owner ∧ given = some key := by
  unfold publish at published
  split at published
  · rename_i filled
    cases given with
    | none => cases filled
    | some given =>
        by_cases same : sagaId = owner
        · subst same
          by_cases key = given
          · simp_all
          · left
            simpa [stepAlreadyCommitted, markStepCommitted, *] using published
        · left
          simpa [stepAlreadyCommitted, markStepCommitted, same] using published
  · exact .inl published

theorem publish_keeps {store : Store Args} {sagaId owner key : String} {given : Option String}
    (published : store.stepAlreadyCommitted sagaId key = true) :
    (store.publish owner given).stepAlreadyCommitted sagaId key = true := by
  unfold publish
  split
  · by_cases same : sagaId = owner
    · subst same
      simp only [stepAlreadyCommitted, markStepCommitted, Function.update_self] at published ⊢
      simp_all
    · simpa [stepAlreadyCommitted, markStepCommitted, same] using published
  · exact published

theorem find_write_state (store : Store Args) (sagaId other : String)
    (status : SagaStatus) (metadata : Metadata Args) :
    (store.writeTransactionState sagaId status metadata).state.find? other =
      if sagaId = other then
        some { sagaId, status, metadata := (store.metadata sagaId).update metadata }
      else store.state.find? other := by
  simp [writeTransactionState]

theorem status_write_state (store : Store Args) (sagaId other : String)
    (status : SagaStatus) (metadata : Metadata Args) :
    (store.writeTransactionState sagaId status metadata).status? other =
      if sagaId = other then some status else store.status? other := by
  rw [status?, find_write_state]
  split <;> rfl

@[simp] theorem status_push_dead_letter (store : Store Args) (sagaId stepName error other : String) :
    (store.pushDeadLetter sagaId stepName error).status? other = store.status? other := rfl

/-- Preparing a new identity registers it; preparing a known one changes nothing. -/
theorem prepare_effect_cases [DecidableEq Args] (store : Store Args) (sagaId stepId stepName : String)
    (action compensation : ActionPayload Args) (key : Option String) :
    (∃ existing, store.effect? sagaId stepId = some existing ∧
        sameEffect existing stepName action compensation key = true ∧
        store.prepareEffect sagaId stepId stepName action compensation key =
          (.ok existing, store)) ∨
      (∃ error, store.prepareEffect sagaId stepId stepName action compensation key =
        (.error error, store)) ∨
      ∃ entry : Effect Args, store.effect? sagaId stepId = none ∧
        entry = { sagaId, stepId, stepName, action, compensation
                  idempotencyKey := key
                  seq := (store.effects sagaId).rows.length + 1
                  state := .prepared, result := none, error := none } ∧
        store.prepareEffect sagaId stepId stepName action compensation key =
          (.ok entry, store.putEffect sagaId entry) := by
  unfold prepareEffect
  cases found : store.effect? sagaId stepId with
  | none => exact .inr (.inr ⟨_, rfl, rfl, rfl⟩)
  | some existing =>
      by_cases same : sameEffect existing stepName action compensation key = true
      · exact .inl ⟨existing, rfl, same, by simp [same]⟩
      · exact .inr (.inl ⟨_, by simp [same]; rfl⟩)

/-- A transition moves one record out of an expected state, or changes nothing. -/
theorem transition_effect_cases (store : Store Args) (sagaId stepId : String)
    (expected : List EffectState) (newState : EffectState) (result : Option Args)
    (error : Option String) :
    (∃ entry, store.effect? sagaId stepId = some entry ∧ entry.state ∈ expected ∧
        store.transitionEffect sagaId stepId expected newState result error =
          (.ok { entry with state := newState, result, error },
            store.putEffect sagaId { entry with state := newState, result, error })) ∨
      ((∀ entry, store.effect? sagaId stepId = some entry → entry.state ∉ expected) ∧
        ∃ refusal, store.transitionEffect sagaId stepId expected newState result error =
          (.error refusal, store)) := by
  unfold transitionEffect
  cases found : store.effect? sagaId stepId with
  | none => exact .inr ⟨by simp, _, rfl⟩
  | some entry =>
      by_cases legal : entry.state ∈ expected
      · exact .inl ⟨entry, rfl, legal, by simp [legal]⟩
      · exact .inr ⟨by simpa using legal, _, by simp [legal]; rfl⟩

theorem commit_effect_cases (store : Store Args) (sagaId stepId : String)
    (key : Option String) :
    (∃ entry, store.effect? sagaId stepId = some entry ∧ entry.state = .applied ∧
        store.commitEffect sagaId stepId key =
          (.ok { entry with state := .committed },
            (store.putEffect sagaId { entry with state := .committed }).publish sagaId key)) ∨
      ((∀ entry, store.effect? sagaId stepId = some entry → entry.state ≠ .applied) ∧
        ∃ refusal, store.commitEffect sagaId stepId key = (.error refusal, store)) := by
  unfold commitEffect
  cases found : store.effect? sagaId stepId with
  | none => exact .inr ⟨by simp, _, rfl⟩
  | some entry =>
      by_cases legal : entry.state = .applied
      · refine .inl ⟨entry, rfl, legal, ?_⟩
        cases key with
        | none => simp [legal, publish, truthy]
        | some key =>
            by_cases blank : key = ""
            · simp [legal, publish, truthy, blank]
            · simp [legal, publish, truthy, blank, markStepCommitted]
      · exact .inr ⟨by simpa using legal, _, by simp [legal]; rfl⟩

end Laws

end Store

end SagaMind
