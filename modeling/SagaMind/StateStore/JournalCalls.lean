import SagaMind.Foundation.Backends
import SagaMind.StateStore

/-!
# Calls on the effect journal

The journal interface of `SagaStateStore` as one type of calls, and the memory
branch as a backend. A call comes with what `_now()` returns during it.
-/

namespace SagaMind

open KeyedTable

set_option autoImplicit false

variable {Args : Type}

inductive JournalCall (Args : Type) where
  | prepareEffect (sagaId : Uuid) (stepId stepName : String)
      (action compensation : ActionPayload Args) (idempotencyKey : Option String)
  | transitionEffect (sagaId : Uuid) (stepId : String) (expected : List EffectState)
      (newState : EffectState) (result : Option Args) (error : Option String)
  | commitEffect (sagaId : Uuid) (stepId : String) (idempotencyKey : Option String)
  | getEffect (sagaId : Uuid) (stepId : String)
  | getEffects (sagaId : Uuid)
  | stepAlreadyCommitted (sagaId : Uuid) (idempotencyKey : String)

structure TimedCall (Args : Type) where
  now : String
  call : JournalCall Args

inductive JournalAnswer (Args : Type) where
  | effect (effect : Effect Args)
  | effects (effects : List (Effect Args))
  | flag (flag : Bool)
  deriving DecidableEq

def answering {Value State : Type} (wrap : Value → JournalAnswer Args)
    (served : Except PyError Value × State) : Except PyError (JournalAnswer Args) × State :=
  (served.1.map wrap, served.2)

def serveMemory [DecidableEq Args] (timed : TimedCall Args) (store : Store Args) :
    Except PyError (JournalAnswer Args) × Store Args :=
  match timed.call with
  | .prepareEffect sagaId stepId stepName action compensation key =>
      answering .effect
        (store.prepareEffect sagaId.text stepId stepName action compensation key)
  | .transitionEffect sagaId stepId expected newState result error =>
      answering .effect
        (store.transitionEffect sagaId.text stepId expected newState result error)
  | .commitEffect sagaId stepId key =>
      answering .effect (store.commitEffect sagaId.text stepId key)
  | .getEffect sagaId stepId => answering .effect (store.getEffect sagaId.text stepId, store)
  | .getEffects sagaId => (.ok (.effects (store.effects sagaId.text).rows), store)
  | .stepAlreadyCommitted sagaId key =>
      (.ok (.flag (store.stepAlreadyCommitted sagaId.text key)), store)

def Store.grants (store : Store Args) (sagaId stepId : String) (expected : List EffectState) :
    Prop :=
  ∃ entry, store.effect? sagaId stepId = some entry ∧ entry.state ∈ expected

namespace Store

def newEffect (store : Store Args) (sagaId stepId stepName : String)
    (action compensation : ActionPayload Args) (idempotencyKey : Option String) : Effect Args :=
  { sagaId, stepId, stepName, action, compensation, idempotencyKey
    seq := (store.effects sagaId).rows.length + 1
    state := .prepared
    result := none
    error := none }

variable {store : Store Args} {sagaId stepId : String} {effect : Effect Args}

theorem prepare_effect_known [DecidableEq Args] (found : store.effect? sagaId stepId = some effect)
    (stepName : String) (action compensation : ActionPayload Args) (key : Option String) :
    ∃ refusal, store.prepareEffect sagaId stepId stepName action compensation key =
      (if sameEffect effect stepName action compensation key = true then .ok effect
        else .error refusal, store) := by
  refine ⟨.journalConflict ("Step identity " ++ sagaId ++ "/" ++ stepId ++
    " was reused with a different effect"), ?_⟩
  rw [prepareEffect, found]
  simp only
  split <;> rfl

theorem prepare_effect_new [DecidableEq Args] (absent : store.effect? sagaId stepId = none) (stepName : String)
    (action compensation : ActionPayload Args) (key : Option String) :
    store.prepareEffect sagaId stepId stepName action compensation key =
      (.ok (store.newEffect sagaId stepId stepName action compensation key),
        store.putEffect sagaId
          (store.newEffect sagaId stepId stepName action compensation key)) := by
  rw [prepareEffect, absent]
  rfl

theorem transition_effect_granted {expected : List EffectState}
    (found : store.effect? sagaId stepId = some effect) (legal : effect.state ∈ expected)
    (newState : EffectState) (result : Option Args) (error : Option String) :
    store.transitionEffect sagaId stepId expected newState result error =
      (.ok { effect with state := newState, result, error },
        store.putEffect sagaId { effect with state := newState, result, error }) := by
  simp only [transitionEffect, found, if_pos legal]

theorem transition_effect_stale {expected : List EffectState}
    (stale : ¬store.grants sagaId stepId expected) (newState : EffectState)
    (result : Option Args) (error : Option String) :
    ∃ refusal, store.transitionEffect sagaId stepId expected newState result error =
      (.error refusal, store) := by
  rcases store.transition_effect_cases sagaId stepId expected newState result error with
    ⟨entry, found, legal, -⟩ | ⟨-, refused⟩
  · exact absurd ⟨entry, found, legal⟩ stale
  · exact refused

theorem commit_effect_granted (found : store.effect? sagaId stepId = some effect)
    (legal : effect.state = .applied) (key : Option String) :
    store.commitEffect sagaId stepId key = (.ok { effect with state := .committed },
      (store.putEffect sagaId { effect with state := .committed }).publish sagaId key) := by
  rcases store.commit_effect_cases sagaId stepId key with
    ⟨entry, known, -, granted⟩ | ⟨stale, -⟩
  · rw [found] at known
    cases known
    exact granted
  · exact absurd legal (stale effect found)

theorem commit_effect_stale (stale : ¬store.grants sagaId stepId [.applied])
    (key : Option String) :
    ∃ refusal, store.commitEffect sagaId stepId key = (.error refusal, store) := by
  rcases store.commit_effect_cases sagaId stepId key with
    ⟨entry, found, legal, -⟩ | ⟨-, refused⟩
  · exact absurd ⟨entry, found, List.mem_singleton.mpr legal⟩ stale
  · exact refused

end Store

end SagaMind
