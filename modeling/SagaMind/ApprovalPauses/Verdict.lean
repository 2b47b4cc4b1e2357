import SagaMind.Coordinator.Workshop

/-!
# The verdict on a list of steps

A verifier and a sandbox that answer the same question in the same way decide
what becomes of the steps of a saga: the calls of the sandbox, the last state of
every record and the last status. Approvals have no part in it.
-/

namespace SagaMind.ApprovalPauses

open Workshop

set_option autoImplicit false

variable {Args : Type}

inductive SandboxCall (Args : Type) where
  | execute (action : ActionPayload Args)
  | compensate (compensation : ActionPayload Args)

/-- A deterministic verifier and a deterministic sandbox. What the sandbox
answers is a function of the call and of its earlier calls for the saga. A check
is no such call. -/
structure Laboratory (Args : Type) where
  verify : Args → String → Except PyError (Bool × String)
  validate : List (SandboxCall Args) → ActionPayload Args → Except PyError Unit
  execute : List (SandboxCall Args) → ActionPayload Args → Except PyError (ExecuteResult Args)
  compensate : List (SandboxCall Args) → ActionPayload Args → Except PyError Bool

abbrev Records : Type := String → Option EffectState

def Records.move (records : Records) (stepId : String) (state : EffectState) : Records :=
  Function.update records stepId (some state)

theorem Records.move_self (records : Records) (stepId : String) (state : EffectState) :
    records.move stepId state stepId = some state :=
  Function.update_self ..

theorem Records.move_other (records : Records) {stepId other : String} (state : EffectState)
    (apart : other ≠ stepId) : records.move stepId state other = records other :=
  Function.update_of_ne apart ..

theorem Records.move_move (records : Records) (stepId : String) (first second : EffectState) :
    (records.move stepId first).move stepId second = records.move stepId second :=
  Function.update_idem ..

structure Verdict (Args : Type) where
  calls : List (SandboxCall Args)
  records : Records
  status : SagaStatus

def Verdict.quarantine (verdict : Verdict Args) (stepId : String) : Verdict Args :=
  { verdict with records := verdict.records.move stepId .ambiguous, status := .compensationFailed }

/-- How far a list of steps is. -/
structure Progress (Args : Type) where
  calls : List (SandboxCall Args)
  keys : Finset String
  /-- What is committed, newest first. -/
  done : List (Deed Args)

namespace Progress

def records (progress : Progress Args) : Records :=
  fun stepId => if stepId ∈ progress.done.map Deed.stepId then some .committed else none

def skips (progress : Progress Args) (step : SagaStep Args) : Bool :=
  truthy step.idempotencyKey ∧ step.idempotencyKey.getD "" ∈ progress.keys

def commit (progress : Progress Args) (step : SagaStep Args) : Progress Args where
  calls := progress.calls ++ [.execute step.action]
  keys :=
    if truthy step.idempotencyKey then insert (step.idempotencyKey.getD "") progress.keys
    else progress.keys
  done := deed step :: progress.done

end Progress

def granted (steps : List (SagaStep Args)) : List (SagaStep Args) :=
  steps.map ({ · with approved := true })

namespace Laboratory

variable (lab : Laboratory Args)

def unwind : List (Deed Args) → List (SandboxCall Args) → Records → Verdict Args
  | [], calls, records => ⟨calls, records, .rolledBack⟩
  | deed :: earlier, calls, records =>
      let asked := calls ++ [.compensate deed.compensation]
      match lab.compensate calls deed.compensation with
      | .ok true => unwind earlier asked (records.move deed.stepId .compensated)
      | _ => ⟨asked, records.move deed.stepId .compensationFailed, .compensationFailed⟩

def admits (validates : Bool) (calls : List (SandboxCall Args)) (step : SagaStep Args) : Bool :=
  match lab.verify step.action.arguments step.invariants with
  | .ok (accepted, _) => accepted && (!validates || (lab.validate calls step.action).isOk)
  | .error _ => false

def carryOut (step : SagaStep Args) (progress : Progress Args) (further : Verdict Args) :
    Verdict Args :=
  let asked := progress.calls ++ [.execute step.action]
  match lab.execute progress.calls step.action with
  | .ok result =>
      if result.succeeded then further
      else lab.unwind progress.done asked (progress.records.move step.stepId .aborted)
  | .error _ =>
      (lab.unwind progress.done asked (progress.records.move step.stepId .executing)).quarantine
        step.stepId

def conclude (validates : Bool) : List (SagaStep Args) → Progress Args → Verdict Args
  | [], progress => ⟨progress.calls, progress.records, .committed⟩
  | step :: rest, progress =>
      if progress.skips step then conclude validates rest progress
      else if lab.admits validates progress.calls step then
        lab.carryOut step progress (conclude validates rest (progress.commit step))
      else lab.unwind progress.done progress.calls progress.records

theorem unwind_elsewhere {stepId : String} (deeds : List (Deed Args))
    (calls : List (SandboxCall Args)) (records : Records)
    (apart : stepId ∉ deeds.map Deed.stepId) :
    (lab.unwind deeds calls records).records stepId = records stepId := by
  induction deeds generalizing calls records with
  | nil => rfl
  | cons deed earlier ih =>
      rw [List.map_cons, List.mem_cons, not_or] at apart
      unfold unwind
      dsimp only
      split
      · rw [ih _ _ apart.2, records.move_other _ apart.1]
      · exact records.move_other _ apart.1

theorem conclude_granted (validates : Bool) (steps : List (SagaStep Args))
    (progress : Progress Args) :
    lab.conclude validates (granted steps) progress = lab.conclude validates steps progress := by
  induction steps generalizing progress with
  | nil => rfl
  | cons step rest ih =>
      change lab.conclude validates ({ step with approved := true } :: granted rest) progress = _
      unfold conclude
      rw [ih, ih]
      rfl

end Laboratory

end SagaMind.ApprovalPauses
