import SagaMind.Foundation.Program
import SagaMind.StateStore

/-!
# What a coordinator calls

The coordinator touches three things: its own `active_sagas`, the state store,
and the outside (verifier and sandbox). Memory calls and store calls are
functions of their state; the outside is left to whoever runs the coordinator.
-/

namespace SagaMind

open CallProgram KeyedTable

set_option autoImplicit false

variable {Args : Type}

/-- `active_sagas`, and the saga objects that were evicted while a call may
still hold them. -/
structure Memory (Args : Type) where
  active : Table (@SagaTransaction.sagaId Args)
  released : Table (@SagaTransaction.sagaId Args)

namespace Memory

def empty : Memory Args := ⟨.empty, .empty⟩

/-- The saga object a running call works on. The source keeps the object it
looked up; a call that outlives its eviction and a new registration of the same
id works on the new object here. -/
def held? (memory : Memory Args) (sagaId : String) : Option (SagaTransaction Args) :=
  (memory.active.find? sagaId).or (memory.released.find? sagaId)

def amend (memory : Memory Args) (sagaId : String)
    (change : SagaTransaction Args → SagaTransaction Args) : Memory Args :=
  match memory.active.find? sagaId with
  | some saga => { memory with active := memory.active.put (change saga) }
  | none =>
      match memory.released.find? sagaId with
      | some saga => { memory with released := memory.released.put (change saga) }
      | none => memory

/-- The statuses `_evict_if_needed` drops. -/
def evictable : SagaStatus → Bool
  | .committed | .rolledBack | .compensationFailed => true
  | _ => false

def evict (limit : Nat) : List (SagaTransaction Args) → Memory Args → Memory Args
  | [], memory => memory
  | saga :: rest, memory =>
      if memory.active.rows.length ≤ limit then memory
      else if evictable saga.status then
        evict limit rest
          { active := memory.active.erase saga.sagaId, released := memory.released.put saga }
      else evict limit rest memory

variable {sagaId : String}

theorem find_amend {memory : Memory Args} {saga : SagaTransaction Args}
    (found : memory.active.find? sagaId = some saga)
    {change : SagaTransaction Args → SagaTransaction Args}
    (same : (change saga).sagaId = saga.sagaId) :
    (memory.amend sagaId change).active.find? sagaId = some (change saga) := by
  have own : (change saga).sagaId = sagaId := same.trans (Table.find_key found)
  simp [Memory.amend, found, own]

theorem evict_drops (limit : Nat) (rows : List (SagaTransaction Args)) (memory : Memory Args) :
    (memory.evict limit rows).active.find? sagaId = none ∨
      (memory.evict limit rows).active.find? sagaId = memory.active.find? sagaId := by
  induction rows generalizing memory with
  | nil => exact .inr rfl
  | cons saga rest ih =>
      unfold Memory.evict
      split
      · exact .inr rfl
      · split
        · rcases ih { active := memory.active.erase saga.sagaId
                      released := memory.released.put saga } with dropped | same
          · exact .inl dropped
          · rw [same, Table.find_erase]
            split
            · exact .inl rfl
            · exact .inr rfl
        · exact ih memory

end Memory

inductive MemoryCall (Args : Type) where
  | lookupSaga (sagaId : String)
  | registerSaga (saga : SagaTransaction Args)
  | completedSteps (sagaId : String)
  | appendCompleted (sagaId : String) (step : SagaStep Args)
  | setStatus (sagaId : String) (status : SagaStatus)
  | setStatusIfActive (sagaId : String) (status : SagaStatus)
  | setPending (sagaId : String) (steps : List (SagaStep Args))
  | evictIfNeeded (limit : Nat)

namespace MemoryCall

abbrev Answer : MemoryCall Args → Type
  | .lookupSaga _ => Option (SagaTransaction Args)
  | .completedSteps _ => List (SagaStep Args)
  | _ => Unit

def serve : (request : MemoryCall Args) → Memory Args → request.Answer × Memory Args
  | .lookupSaga sagaId, memory => (memory.active.find? sagaId, memory)
  | .registerSaga saga, memory => ((), { memory with active := memory.active.put saga })
  | .completedSteps sagaId, memory =>
      (((memory.held? sagaId).map (·.completedSteps)).getD [], memory)
  | .appendCompleted sagaId step, memory =>
      ((), memory.amend sagaId fun saga =>
        { saga with completedSteps := saga.completedSteps ++ [step] })
  | .setStatus sagaId status, memory => ((), memory.amend sagaId ({ · with status }))
  | .setStatusIfActive sagaId status, memory =>
      match memory.active.find? sagaId with
      | some saga => ((), { memory with active := memory.active.put { saga with status } })
      | none => ((), memory)
  | .setPending sagaId steps, memory =>
      ((), memory.amend sagaId ({ · with pendingSteps := steps }))
  | .evictIfNeeded limit, memory => ((), memory.evict limit memory.active.rows)

end MemoryCall

inductive StoreCall (Args : Type) where
  | writeTransactionState (sagaId : String) (status : SagaStatus) (metadata : Metadata Args)
  | prepareEffect (sagaId stepId stepName : String) (action compensation : ActionPayload Args)
      (idempotencyKey : Option String)
  | transitionEffect (sagaId stepId : String) (expected : List EffectState)
      (newState : EffectState) (result : Option Args) (error : Option String)
  | commitEffect (sagaId stepId : String) (idempotencyKey : Option String)
  | getEffect (sagaId stepId : String)
  | stepAlreadyCommitted (sagaId key : String)
  | markStepCommitted (sagaId key : String)
  | appendCompensation (sagaId : String) (compensation : ActionPayload Args)
  | pushDeadLetter (sagaId stepName error : String)
  | recordStep (sagaId : String) (entry : HistoryEntry Args)
  | listIncomplete

namespace StoreCall

abbrev Answer : StoreCall Args → Type
  | .prepareEffect .. => Effect Args
  | .transitionEffect .. => Effect Args
  | .commitEffect .. => Effect Args
  | .getEffect .. => Effect Args
  | .stepAlreadyCommitted .. => Bool
  | .listIncomplete => List (IncompleteSaga Args)
  | _ => Unit

def serve [DecidableEq Args] : (request : StoreCall Args) → Store Args →
    Except PyError request.Answer × Store Args
  | .writeTransactionState sagaId status metadata, store =>
      (.ok (), store.writeTransactionState sagaId status metadata)
  | .prepareEffect sagaId stepId stepName action compensation key, store =>
      store.prepareEffect sagaId stepId stepName action compensation key
  | .transitionEffect sagaId stepId expected newState result error, store =>
      store.transitionEffect sagaId stepId expected newState result error
  | .commitEffect sagaId stepId key, store => store.commitEffect sagaId stepId key
  | .getEffect sagaId stepId, store => (store.getEffect sagaId stepId, store)
  | .stepAlreadyCommitted sagaId key, store => (.ok (store.stepAlreadyCommitted sagaId key), store)
  | .markStepCommitted sagaId key, store => (.ok (), store.markStepCommitted sagaId key)
  | .appendCompensation sagaId compensation, store =>
      (.ok (), store.appendCompensation sagaId compensation)
  | .pushDeadLetter sagaId stepName error, store =>
      (.ok (), store.pushDeadLetter sagaId stepName error)
  | .recordStep sagaId entry, store => (.ok (), store.recordStep sagaId entry)
  | .listIncomplete, store => (.ok store.listIncomplete, store)

end StoreCall

/-- What a resolver returns: a Boolean, or something whose `str` in upper case
is `upper`. -/
inductive ResolverValue where
  | bool (value : Bool)
  | other (upper : String)
  deriving DecidableEq

inductive Resolution where
  | applied
  | notApplied
  | unknown
  deriving DecidableEq

def normaliseResolution : ResolverValue → Resolution
  | .bool true => .applied
  | .bool false => .notApplied
  | .other upper =>
      if upper = "APPLIED" then .applied
      else if upper = "NOT_APPLIED" then .notApplied
      else .unknown

/-- Calls of the verifier and the sandbox. The saga and the step are those the
tracing span around the call names; the handler sees only the payload. -/
inductive OutsideCall (Args : Type) where
  | verify (arguments : Args) (invariants : String)
  | validate (action : ActionPayload Args)
  | execute (sagaId : String) (step : SagaStep Args)
  | executeCompensation (sagaId : String) (stepId : Option String)
      (compensation : ActionPayload Args)
  | resolveEffect (effect : Effect Args)
  | resolveCompensation (effect : Effect Args)
  | executeIdempotent (action : ActionPayload Args) (key : String)

abbrev OutsideCall.Answer : OutsideCall Args → Type
  | .verify .. => Bool × String
  | .validate _ => Unit
  | .execute .. => ExecuteResult Args
  | .executeCompensation .. => Bool
  | .resolveEffect _ => ResolverValue
  | .resolveCompensation _ => ResolverValue
  | .executeIdempotent .. => ExecuteResult Args

inductive Call (Args : Type) where
  | memory (request : MemoryCall Args)
  | store (request : StoreCall Args)
  | outside (request : OutsideCall Args)

abbrev Call.Answer : Call Args → Type
  | .memory request => request.Answer
  | .store request => request.Answer
  | .outside request => request.Answer

abbrev coordinatorFace (Args : Type) : Interface where
  Call := Call Args
  Answer := Call.Answer
  Fault := PyError

/-- A piece of coordinator code that returns `Value` or raises. -/
abbrev Action (Args Value : Type) : Type := Program (coordinatorFace Args) PyError Value

end SagaMind
