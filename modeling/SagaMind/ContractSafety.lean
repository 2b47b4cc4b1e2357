import SagaMind.BoundedProof

/-!
# Validated contracts do not go wrong

A validated contract is evaluated without an error on every case that is drawn from its
domains, and each state it produces has the declared types again.
-/

namespace SagaMind.Contracts

open Choices

set_option autoImplicit false

section Safety

variable {host : Host} {contract : CompensationContract} {state inputs : Record}

/-- Both transitions and the three conditions are evaluated without an error, and both
produced states pass `_ensure_state_types`. -/
structure RunsSafely (host : Host) (contract : CompensationContract) (state inputs : Record) :
    Prop where
  precondition : ∃ value,
    (Environment.mk state state inputs).condition contract.precondition = .ok value
  transitions : ∃ after,
    (Environment.mk state state inputs).transition contract.forward = .ok after ∧
      Fits after contract.stateVariables ∧
      ensureStateTypes host after contract.stateVariables = .ok () ∧
      (∃ value, (Environment.mk after state inputs).condition contract.postcondition = .ok value) ∧
      ∃ restored,
        (Environment.mk after state inputs).transition contract.compensation = .ok restored ∧
          Fits restored contract.stateVariables ∧
          ensureStateTypes host restored contract.stateVariables = .ok () ∧
          ∃ value,
            (Environment.mk restored state inputs).condition contract.restoration = .ok value

/-- A record of well-typed points gives every variable a value of its type. -/
theorem drawn_record_fits {specs : List VariableSpec} {found : List (String × List Scalar)}
    {maxPoints : Nat} {drawn : Record} (names : (specs.map VariableSpec.name).Nodup)
    (built : domains host maxPoints specs = .ok found) (member : drawn ∈ records found) :
    Fits drawn specs := by
  have declared := domains_ok_iff.mp built
  rw [declared.1] at member
  have chosen := ((records_enumerate specs).mem_iff drawn).mp member
  rcases chosen with ⟨choice, same⟩
  rw [← same]
  exact choice_fits names (fun spec listed => (declared.2 spec listed).typed) choice

/-- Progress and preservation on fitting records: what is evaluated has a value, and what a
transition produces fits. -/
theorem sound_runs_safely (host : Host) (sound : Sound contract)
    (original : Fits state contract.stateVariables)
    (given : Fits inputs contract.inputVariables) : RunsSafely host contract state inputs := by
  have before : Typed contract.stateVariables contract.inputVariables ⟨state, state, inputs⟩ :=
    ⟨original, original, given⟩
  have forward := transition_typed before sound.stateNames sound.forward
  rcases forward with ⟨after, moved, _, afterFits⟩
  have between : Typed contract.stateVariables contract.inputVariables ⟨after, state, inputs⟩ :=
    ⟨afterFits, original, given⟩
  have compensation := transition_typed between sound.stateNames sound.compensation
  rcases compensation with ⟨restored, compensated, _, restoredFits⟩
  have last : Typed contract.stateVariables contract.inputVariables ⟨restored, state, inputs⟩ :=
    ⟨restoredFits, original, given⟩
  have admitted := condition_decided before contract.precondition sound.precondition
  have promised := condition_decided between contract.postcondition sound.postcondition
  have returned := condition_decided last contract.restoration sound.restoration
  rcases admitted with ⟨admits, admitsEvaluated, _⟩
  rcases promised with ⟨promises, promisesEvaluated, _⟩
  rcases returned with ⟨restores, restoresEvaluated, _⟩
  constructor
  · exact ⟨admits, admitsEvaluated⟩
  · exact ⟨after, moved, afterFits, ensure_state_types_ok afterFits, ⟨promises, promisesEvaluated⟩,
      restored, compensated, restoredFits, ensure_state_types_ok restoredFits,
      ⟨restores, restoresEvaluated⟩⟩

/-- A validated contract runs safely on every record of its domains. -/
theorem validated_runs_safely {maxPoints : Nat}
    {stateDomains inputDomains : List (String × List Scalar)}
    (valid : validateContract host contract = .ok ())
    (statesBuilt : domains host maxPoints contract.stateVariables = .ok stateDomains)
    (inputsBuilt : domains host maxPoints contract.inputVariables = .ok inputDomains)
    (drawnState : state ∈ records stateDomains) (drawnInputs : inputs ∈ records inputDomains) :
    RunsSafely host contract state inputs := by
  have sound := sound_of_valid valid
  exact sound_runs_safely host sound (drawn_record_fits sound.stateNames statesBuilt drawnState)
    (drawn_record_fits sound.inputNames inputsBuilt drawnInputs)

end Safety

section Sample

def quoted : Scalar → String
  | .bool value => if value then "True" else "False"
  | .int value => toString value
  | .real value => toString value
  | .str value => "'" ++ value ++ "'"

def sampleHost : Host where
  repr := quoted
  reprExpression := fun _ => "Expression"
  sha256 := fun _ => "sha256:0"

/-- A withdrawal of two from a balance of three. -/
theorem withdrawal_runs_safely :
    RunsSafely sampleHost withdrawalContract (record ["balance"] [.int 3])
      (record ["amount"] [.int 2]) := by
  have states : domains sampleHost 100 withdrawalContract.stateVariables =
      .ok [("balance", [.int 0, .int 1, .int 2, .int 3])] := rfl
  have amounts : domains sampleHost 100 withdrawalContract.inputVariables =
      .ok [("amount", [.int 0, .int 1, .int 2])] := rfl
  apply validated_runs_safely rfl states amounts
  · exact List.mem_map_of_mem (by decide)
  · exact List.mem_map_of_mem (by decide)

end Sample

end SagaMind.Contracts
