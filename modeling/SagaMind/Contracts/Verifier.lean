import Mathlib.Algebra.Order.Ring.Rat
import SagaMind.Contracts.Dsl
import SagaMind.Foundation.Choices

/-!
# Bounded verifier

`BoundedContractVerifier` of `src/contracts/verifier.py`. The host supplies the
two things that are not in the repository: `repr`, and the digest of the sorted
JSON text of a value.
-/

namespace SagaMind.Contracts

open Choices

set_option autoImplicit false

structure Host where
  repr : Scalar → String
  reprExpression : Expression → String
  /-- `_sha256`. -/
  sha256 : Value → String

inductive ProofStatus where
  | proved
  | rejected
  | invalid
  | unknown
  | unsupported
  deriving DecidableEq

def ProofStatus.value : ProofStatus → String
  | .proved => "proved"
  | .rejected => "rejected"
  | .invalid => "invalid"
  | .unknown => "unknown"
  | .unsupported => "unsupported"

/-- What the verifier raises: `ContractVerificationError`, its two subclasses,
and the two exceptions of the language that can come up. -/
inductive ContractError where
  | verification (message : String)
  | unsupported (message : String)
  | tooLarge (message : String)
  | typeError (message : String)
  | keyError (name : String)
  deriving DecidableEq

abbrev Checked (Result : Type) : Type := Except ContractError Result

/-- A `dict[str, Scalar]`. -/
abbrev Record : Type := String → Option Scalar

section Types

def matchesType : Scalar → ValueType → Bool
  | .bool _, .boolean => true
  | .int _, .integer => true
  | .int _, .real => true
  | .real _, .real => true
  | .str _, .string => true
  | _, _ => false

def compatibleTypes (left right : ValueType) : Bool :=
  left = right || (left = .integer && right = .real) || (left = .real && right = .integer)

def assignableType (valueType targetType : ValueType) : Bool :=
  valueType = targetType || (valueType = .integer && targetType = .real)

def ValueType.numeric : ValueType → Bool
  | .integer => true
  | .real => true
  | _ => false

def lookupSpec (specs : List VariableSpec) (name : String) : Option VariableSpec :=
  specs.find? fun spec => spec.name = name

def refSpecs (stateSpecs inputSpecs : List VariableSpec) : RefSource → List VariableSpec
  | .input => inputSpecs
  | _ => stateSpecs

/-- `_validate_refs` on an expression. -/
def validateExpressionRefs (stateSpecs inputSpecs : List VariableSpec) : Expression → Checked Unit
  | .ref name source =>
      if (lookupSpec (refSpecs stateSpecs inputSpecs source) name).isSome then pure ()
      else .error (.verification ("Unknown " ++ source.value ++ " reference: " ++ name))
  | .literal _ => pure ()
  | .binary _ left right => do
      validateExpressionRefs stateSpecs inputSpecs left
      validateExpressionRefs stateSpecs inputSpecs right

def Scalar.valueType : Scalar → ValueType
  | .bool _ => .boolean
  | .int _ => .integer
  | .real _ => .real
  | .str _ => .string

def inferExpressionType (stateSpecs inputSpecs : List VariableSpec) :
    Expression → Checked ValueType
  | .literal value => pure value.valueType
  | .ref name source =>
      match lookupSpec (refSpecs stateSpecs inputSpecs source) name with
      | some spec => pure spec.valueType
      | none => .error (.keyError name)
  | .binary _ left right => do
      let left ← inferExpressionType stateSpecs inputSpecs left
      let right ← inferExpressionType stateSpecs inputSpecs right
      if left.numeric && right.numeric then
        pure (if left = .real || right = .real then .real else .integer)
      else .error (.verification "Arithmetic expressions require numeric operands")

mutual

/-- `_validate_refs` on a condition. -/
def validateRefs (stateSpecs inputSpecs : List VariableSpec) : Condition → Checked Unit
  | .boolConstant _ => pure ()
  | .comparison _ left right => do
      validateExpressionRefs stateSpecs inputSpecs left
      validateExpressionRefs stateSpecs inputSpecs right
  | .allOf conditions => validateAllRefs stateSpecs inputSpecs conditions
  | .anyOf conditions => validateAllRefs stateSpecs inputSpecs conditions
  | .not condition => validateRefs stateSpecs inputSpecs condition

def validateAllRefs (stateSpecs inputSpecs : List VariableSpec) : List Condition → Checked Unit
  | [] => pure ()
  | head :: tail => do
      validateRefs stateSpecs inputSpecs head
      validateAllRefs stateSpecs inputSpecs tail

end

mutual

def validateConditionTypes (stateSpecs inputSpecs : List VariableSpec) :
    Condition → Checked Unit
  | .boolConstant _ => pure ()
  | .comparison _ left right => do
      let left ← inferExpressionType stateSpecs inputSpecs left
      let right ← inferExpressionType stateSpecs inputSpecs right
      if compatibleTypes left right then pure ()
      else .error (.verification ("Comparison mixes incompatible types: " ++ left.value ++ " and " ++
        right.value))
  | .allOf conditions => validateAllTypes stateSpecs inputSpecs conditions
  | .anyOf conditions => validateAllTypes stateSpecs inputSpecs conditions
  | .not condition => validateConditionTypes stateSpecs inputSpecs condition

def validateAllTypes (stateSpecs inputSpecs : List VariableSpec) : List Condition → Checked Unit
  | [] => pure ()
  | head :: tail => do
      validateConditionTypes stateSpecs inputSpecs head
      validateAllTypes stateSpecs inputSpecs tail

end

end Types

section Evaluation

/-- An `int` or a `float`, and no `bool`. -/
def Scalar.magnitude? : Scalar → Option Rat
  | .int value => some value
  | .real value => some value
  | _ => none

/-- What Python compares as a number: a `bool` is 0 or 1. -/
def Scalar.number? : Scalar → Option Rat
  | .bool value => some (if value then 1 else 0)
  | scalar => scalar.magnitude?

def Scalar.typeName : Scalar → String
  | .bool _ => "bool"
  | .int _ => "int"
  | .real _ => "float"
  | .str _ => "str"

def ArithmeticOperator.apply {α : Type} [Add α] [Sub α] [Mul α] :
    ArithmeticOperator → α → α → α
  | .add, left, right => left + right
  | .subtract, left, right => left - right
  | .multiply, left, right => left * right

/-- Two `int`s give an `int`, two numbers a `float`. -/
def arithmetic (operator : ArithmeticOperator) : Scalar → Scalar → Checked Scalar
  | .int left, .int right => pure (.int (operator.apply left right))
  | left, right =>
      match left.magnitude?, right.magnitude? with
      | some left, some right => pure (.real (operator.apply left right))
      | _, _ => .error (.verification "Arithmetic operands must be numeric")

/-- `left == right`. -/
def equals : Scalar → Scalar → Bool
  | .str left, .str right => left = right
  | left, right =>
      match left.number?, right.number? with
      | some left, some right => left = right
      | _, _ => false

def ordering (symbol : String) (numbers : Rat → Rat → Bool) (texts : String → String → Bool) :
    Scalar → Scalar → Checked Bool
  | .str left, .str right => pure (texts left right)
  | left, right =>
      match left.number?, right.number? with
      | some left, some right => pure (numbers left right)
      | _, _ => .error (.typeError ("'" ++ symbol ++ "' not supported between instances of '" ++
          left.typeName ++ "' and '" ++ right.typeName ++ "'"))

def compare : ComparisonOperator → Scalar → Scalar → Checked Bool
  | .eq, left, right => pure (equals left right)
  | .ne, left, right => pure (!equals left right)
  | .lt, left, right => ordering "<" (· < ·) (· < ·) left right
  | .le, left, right => ordering "<=" (· ≤ ·) (· ≤ ·) left right
  | .gt, left, right => ordering ">" (· > ·) (· > ·) left right
  | .ge, left, right => ordering ">=" (· ≥ ·) (· ≥ ·) left right

/-- The three records that a contract refers to. -/
structure Environment where
  state : Record
  original : Record
  inputs : Record

def Environment.source (env : Environment) : RefSource → Record
  | .state => env.state
  | .original => env.original
  | .input => env.inputs

def Environment.expression (env : Environment) : Expression → Checked Scalar
  | .literal value => pure value
  | .ref name source =>
      match env.source source name with
      | some value => pure value
      | none => .error (.keyError name)
  | .binary operator left right => do
      let left ← env.expression left
      let right ← env.expression right
      arithmetic operator left right

mutual

def Environment.condition (env : Environment) : Condition → Checked Bool
  | .boolConstant value => pure value
  | .allOf conditions => env.all conditions
  | .anyOf conditions => env.any conditions
  | .not condition => do
      let value ← env.condition condition
      pure !value
  | .comparison operator left right => do
      let left ← env.expression left
      let right ← env.expression right
      compare operator left right

/-- `all(...)` stops at the first false item. -/
def Environment.all (env : Environment) : List Condition → Checked Bool
  | [] => pure true
  | head :: tail => do
      let value ← env.condition head
      if value then env.all tail else pure false

/-- `any(...)` stops at the first true item. -/
def Environment.any (env : Environment) : List Condition → Checked Bool
  | [] => pure false
  | head :: tail => do
      let value ← env.condition head
      if value then pure true else env.any tail

end

def Environment.updates (env : Environment) : List Assignment → Checked (List (String × Scalar))
  | [] => pure []
  | assignment :: rest => do
      let value ← env.expression assignment.value
      let later ← env.updates rest
      pure ((assignment.target, value) :: later)

def Record.update (record : Record) (updates : List (String × Scalar)) : Record :=
  fun name => (updates.reverse.lookup name).or (record name)

def Environment.transition (env : Environment) (transition : Transition) : Checked Record := do
  let updates ← env.updates transition.assignments
  pure (Record.update env.state updates)

end Evaluation

section Validation

def validateTargets (host : Host) (specs : List VariableSpec) (transitionName : String)
    (transition : Transition) : Checked Unit :=
  let targets := transition.assignments.map Assignment.target
  let unknown := targets.filter fun target => (lookupSpec specs target).isNone
  if ¬targets.Nodup then
    .error (.verification ("Duplicate " ++ transitionName ++ " assignment target"))
  else if unknown ≠ [] then
    let sorted := unknown.mergeSort fun left right => left ≤ right
    .error (.verification ("Unknown " ++ transitionName ++ " targets: [" ++
      ", ".intercalate (sorted.map fun target => host.repr (.str target)) ++ "]"))
  else pure ()

def validateAssignment (host : Host) (stateSpecs inputSpecs : List VariableSpec)
    (assignment : Assignment) : Checked Unit := do
  validateExpressionRefs stateSpecs inputSpecs assignment.value
  let assignedType ← inferExpressionType stateSpecs inputSpecs assignment.value
  match lookupSpec stateSpecs assignment.target with
  | none => .error (.keyError assignment.target)
  | some spec =>
      if assignableType assignedType spec.valueType then pure ()
      else .error (.verification ("Assignment to " ++ host.repr (.str assignment.target) ++
        " produces " ++ assignedType.value ++ ", expected " ++ spec.valueType.value))

def validateAssignments (host : Host) (stateSpecs inputSpecs : List VariableSpec) :
    List Assignment → Checked Unit
  | [] => pure ()
  | assignment :: rest => do
      validateAssignment host stateSpecs inputSpecs assignment
      validateAssignments host stateSpecs inputSpecs rest

def validateCondition (stateSpecs inputSpecs : List VariableSpec) (condition : Condition) :
    Checked Unit := do
  validateRefs stateSpecs inputSpecs condition
  validateConditionTypes stateSpecs inputSpecs condition

def validateShape (contract : CompensationContract) : Checked Unit :=
  let stateNames := contract.stateVariables.map VariableSpec.name
  let inputNames := contract.inputVariables.map VariableSpec.name
  if ¬stateNames.Nodup then .error (.verification "State variable names must be unique")
  else if ¬inputNames.Nodup then .error (.verification "Input variable names must be unique")
  else if ∃ name ∈ stateNames, name ∈ inputNames then
    .error (.verification "State and input variable names must not overlap")
  else if stateNames = [] then .error (.verification "At least one state variable is required")
  else if blank contract.implementationIdentity then
    .error (.verification "Tool implementation identity is required")
  else if contract.irreversibleEffects ≠ [] then
    .error (.unsupported ("Irreversible effects cannot receive a restoration proof: " ++
      ", ".intercalate contract.irreversibleEffects))
  else pure ()

def validateContract (host : Host) (contract : CompensationContract) : Checked Unit := do
  let stateSpecs := contract.stateVariables
  let inputSpecs := contract.inputVariables
  validateShape contract
  validateTargets host stateSpecs "forward" contract.forward
  validateTargets host stateSpecs "compensation" contract.compensation
  validateCondition stateSpecs inputSpecs contract.precondition
  validateCondition stateSpecs inputSpecs contract.postcondition
  validateCondition stateSpecs inputSpecs contract.restoration
  validateAssignments host stateSpecs inputSpecs contract.forward.assignments
  validateAssignments host stateSpecs inputSpecs contract.compensation.assignments

def ensureStateTypes (host : Host) (state : Record) : List VariableSpec → Checked Unit
  | [] => pure ()
  | spec :: rest =>
      match state spec.name with
      | none => .error (.keyError spec.name)
      | some value =>
          if matchesType value spec.valueType then ensureStateTypes host state rest
          else .error (.verification ("Transition produced " ++ host.repr value ++ " for " ++
            host.repr (.str spec.name) ++ ", expected " ++ spec.valueType.value))

end Validation

section Domains

/-- `range(least, greatest + 1)`. -/
def integerRange (least greatest : Int) : List Scalar :=
  (List.range (greatest - least + 1).toNat).map fun (offset : Nat) => .int (least + offset)

def declaredValues (host : Host) (spec : VariableSpec) (maxPoints : Nat) :
    Checked (List Scalar) :=
  if spec.allowedValues ≠ [] then pure spec.allowedValues
  else
    match spec.valueType, spec.minimum, spec.maximum with
    | .boolean, _, _ => pure [.bool false, .bool true]
    | .integer, some least, some greatest =>
        if greatest - least + 1 > maxPoints then
          .error (.tooLarge ("Domain for " ++ host.repr (.str spec.name) ++ " exceeds max_cases=" ++
            toString maxPoints))
        else pure (integerRange least greatest)
    | _, _, _ =>
        .error (.unsupported (host.repr (.str spec.name) ++ " has no finite domain; real/string " ++
          "variables require allowed_values and integers require inclusive bounds"))

def domain (host : Host) (spec : VariableSpec) (maxPoints : Nat) : Checked (List Scalar) := do
  let values ← declaredValues host spec maxPoints
  if values = [] then
    .error (.verification (host.repr (.str spec.name) ++ " has an empty domain"))
  else if values.length > maxPoints then
    .error (.tooLarge ("Domain for " ++ host.repr (.str spec.name) ++ " exceeds max_cases=" ++
      toString maxPoints))
  else
    match values.find? fun value => !matchesType value spec.valueType with
    | some value =>
        .error (.verification ("Value " ++ host.repr value ++ " in " ++
          host.repr (.str spec.name) ++ " does not match " ++ spec.valueType.value))
    | none => pure values

/-- `_domains`, in the order of the variables. -/
def domains (host : Host) (maxPoints : Nat) :
    List VariableSpec → Checked (List (String × List Scalar))
  | [] => pure []
  | spec :: rest => do
      let values ← domain host spec maxPoints
      let later ← domains host maxPoints rest
      pure ((spec.name, values) :: later)

/-- `dict(zip(names, values))`. -/
def record (names : List String) (values : List Scalar) : Record :=
  fun name => (names.zip values).lookup name

def records (domains : List (String × List Scalar)) : List Record :=
  (product (domains.map Prod.snd)).map (record (domains.map Prod.fst))

def domainSize (domains : List (String × List Scalar)) : Nat :=
  (domains.map fun entry => entry.2.length).prod

end Domains

section Certificates

structure RepairConstraint where
  field : String
  source : String
  operator : String
  value : Value
  rationale : String

structure ContractCounterexample where
  violatedProperty : String
  originalState : Record
  inputs : Record
  afterForward : Record
  afterCompensation : Option Record := none

structure VerificationCertificate where
  contractName : String
  contractVersion : String
  status : ProofStatus
  verifier : String
  contractHash : String
  implementationHash : String
  proofHash : String
  casesChecked : Nat
  admissibleCases : Nat
  message : String
  counterexample : Option ContractCounterexample := none
  repairConstraints : List RepairConstraint := []
  warnings : List String := []

def Record.toValue (record : Record) : Value := .dict fun key => (record key).map Scalar.toValue

def ContractCounterexample.toValue (found : ContractCounterexample) : Value :=
  .fields [
    ("violated_property", .str found.violatedProperty),
    ("original_state", Record.toValue found.originalState),
    ("inputs", Record.toValue found.inputs),
    ("after_forward", Record.toValue found.afterForward),
    ("after_compensation", (found.afterCompensation.map Record.toValue).getD .none)]

def RepairConstraint.toValue (repair : RepairConstraint) : Value :=
  .fields [
    ("field", .str repair.field),
    ("source", .str repair.source),
    ("operator", .str repair.operator),
    ("value", repair.value),
    ("rationale", .str repair.rationale)]

/-- A comparison that failed, as `_failed_comparisons` collects it. -/
abbrev Failed : Type := ComparisonOperator × Expression × Expression

mutual

def failedComparisons (env : Environment) : Condition → Checked (List Failed)
  | .comparison operator left right => do
      let value ← env.condition (.comparison operator left right)
      pure (if value then [] else [(operator, left, right)])
  | .allOf conditions => allFailedComparisons env conditions
  | .anyOf conditions => do
      let value ← env.condition (.anyOf conditions)
      if value then pure [] else allFailedComparisons env conditions
  | .boolConstant _ => pure []
  | .not _ => pure []

def allFailedComparisons (env : Environment) : List Condition → Checked (List Failed)
  | [] => pure []
  | head :: tail => do
      let first ← failedComparisons env head
      let later ← allFailedComparisons env tail
      pure (first ++ later)

end

/-- `_comparison_to_repair`, for a comparison whose left side is a reference. -/
def comparisonToRepair (host : Host) : Failed → Option RepairConstraint
  | (operator, .ref name source, right) => some {
      field := name
      source := source.value
      operator := operator.value
      value :=
        match right with
        | .literal value => value.toValue
        | .ref name source => .fields [("source", .str source.value), ("field", .str name)]
        | right => .fields [("expression", .str (host.reprExpression right))]
      rationale := "Retry must satisfy the violated contract predicate." }
  | _ => none

def repairConstraints (host : Host) (condition : Condition) (env : Environment) :
    Checked (List RepairConstraint) := do
  let failed ← failedComparisons env condition
  pure (failed.filterMap (comparisonToRepair host))

def verifierName : String := "bounded-exhaustive-v1"

def implementationHash (host : Host) (identity : String) : String :=
  host.sha256 (.fields [("tool_implementation_identity", .str identity)])

structure Tally where
  casesChecked : Nat := 0
  admissibleCases : Nat := 0

structure Rejection where
  message : String
  counterexample : ContractCounterexample
  repairConstraints : List RepairConstraint

def certificate (host : Host) (contract : CompensationContract) (status : ProofStatus)
    (message : String) (tally : Tally) (rejection : Option Rejection) : VerificationCertificate :=
  let contractHash := host.sha256 contract.toDict
  let implementationHash := implementationHash host contract.implementationIdentity
  let counterexample := rejection.map Rejection.counterexample
  let repairConstraints := (rejection.map Rejection.repairConstraints).getD []
  let proofPayload := Value.fields [
    ("schema", .str "sagamind.compensation-proof.v1"),
    ("contract_hash", .str contractHash),
    ("implementation_hash", .str implementationHash),
    ("status", .str status.value),
    ("verifier", .str verifierName),
    ("cases_checked", .int tally.casesChecked),
    ("admissible_cases", .int tally.admissibleCases),
    ("counterexample", (counterexample.map ContractCounterexample.toValue).getD .none),
    ("repair_constraints", .list (repairConstraints.map RepairConstraint.toValue))]
  { contractName := contract.name
    contractVersion := contract.version
    status
    verifier := verifierName
    contractHash
    implementationHash
    proofHash := host.sha256 proofPayload
    casesChecked := tally.casesChecked
    admissibleCases := tally.admissibleCases
    message
    counterexample
    repairConstraints }

end Certificates

section Verification

inductive Verdict where
  | finished
  | rejected (rejection : Rejection)
  | failed (error : ContractError)

def examineCompensation (host : Host) (contract : CompensationContract)
    (state inputs afterForward : Record) : Checked (Option Rejection) := do
  let restored ← (Environment.mk afterForward state inputs).transition contract.compensation
  ensureStateTypes host restored contract.stateVariables
  let env : Environment := ⟨restored, state, inputs⟩
  let holds ← env.condition contract.restoration
  if holds then pure none
  else
    let repairs ← repairConstraints host contract.restoration env
    pure (some {
      message := "Compensation does not restore the declared invariant."
      counterexample := {
        violatedProperty := "restoration"
        originalState := state
        inputs
        afterForward
        afterCompensation := some restored }
      repairConstraints := repairs })

def examine (host : Host) (contract : CompensationContract) (state inputs : Record) :
    Checked (Option Rejection) := do
  let afterForward ← (Environment.mk state state inputs).transition contract.forward
  ensureStateTypes host afterForward contract.stateVariables
  let env : Environment := ⟨afterForward, state, inputs⟩
  let holds ← env.condition contract.postcondition
  if holds then examineCompensation host contract state inputs afterForward
  else
    let repairs ← repairConstraints host contract.postcondition env
    pure (some {
      message := "Forward transition violates its declared postcondition."
      counterexample := {
        violatedProperty := "postcondition"
        originalState := state
        inputs
        afterForward }
      repairConstraints := repairs })

/-- The two nested loops of `verify`. -/
def checkCases (host : Host) (contract : CompensationContract) :
    List (Record × Record) → Tally → Verdict × Tally
  | [], tally => (.finished, tally)
  | (state, inputs) :: rest, tally =>
      let tally := { tally with casesChecked := tally.casesChecked + 1 }
      match (Environment.mk state state inputs).condition contract.precondition with
      | .error error => (.failed error, tally)
      | .ok false => checkCases host contract rest tally
      | .ok true =>
          let tally := { tally with admissibleCases := tally.admissibleCases + 1 }
          match examine host contract state inputs with
          | .error error => (.failed error, tally)
          | .ok (some rejection) => (.rejected rejection, tally)
          | .ok none => checkCases host contract rest tally

/-- Every pair of a state record and an input record, in the order of the loops. -/
def cases (stateDomains inputDomains : List (String × List Scalar)) : List (Record × Record) :=
  (records stateDomains).flatMap fun state => (records inputDomains).map fun inputs => (state, inputs)

structure BoundedContractVerifier where
  maxCases : Nat := 100000
  positive : 1 ≤ maxCases

/-- What the first `try` block computes. -/
def BoundedContractVerifier.prepare (self : BoundedContractVerifier) (host : Host)
    (contract : CompensationContract) :
    Checked (List (String × List Scalar) × List (String × List Scalar)) := do
  validateContract host contract
  let stateDomains ← domains host self.maxCases contract.stateVariables
  let inputDomains ← domains host self.maxCases contract.inputVariables
  pure (stateDomains, inputDomains)

/-- The enumeration and what follows it. A `KeyError` is not caught. -/
def conclude (host : Host) (contract : CompensationContract) :
    Verdict × Tally → Checked VerificationCertificate
  | (.rejected rejection, tally) =>
      pure (certificate host contract .rejected rejection.message tally (some rejection))
  | (.failed error, tally) =>
      match error with
      | .unsupported message => pure (certificate host contract .unsupported message tally none)
      | .verification message | .tooLarge message | .typeError message =>
          pure (certificate host contract .invalid ("Contract evaluation failed: " ++ message) tally
            none)
      | .keyError name => .error (.keyError name)
  | (.finished, tally) =>
      if tally.admissibleCases = 0 then
        pure (certificate host contract .invalid ("Precondition is unsatisfiable over the " ++
          "declared domains; vacuous proof rejected.") tally none)
      else
        pure (certificate host contract .proved ("Forward postcondition and compensation " ++
          "restoration hold for every admissible bounded case.") tally none)

/-- `verify`. A `KeyError` is not caught. -/
def BoundedContractVerifier.verify (self : BoundedContractVerifier) (host : Host)
    (contract : CompensationContract) : Checked VerificationCertificate :=
  match self.prepare host contract with
  | .error (.tooLarge message) =>
      pure (certificate host contract .unknown (message ++ "; rejected.") {} none)
  | .error (.unsupported message) =>
      pure (certificate host contract .unsupported message {} none)
  | .error (.verification message) => pure (certificate host contract .invalid message {} none)
  | .error (.typeError message) => pure (certificate host contract .invalid message {} none)
  | .error (.keyError name) => .error (.keyError name)
  | .ok (stateDomains, inputDomains) =>
      let caseCount := domainSize stateDomains * domainSize inputDomains
      if caseCount > self.maxCases then
        pure (certificate host contract .unknown ("Proof space has " ++ toString caseCount ++
          " cases, exceeding max_cases=" ++ toString self.maxCases ++ "; rejected.") {} none)
      else conclude host contract (checkCases host contract (cases stateDomains inputDomains) {})

end Verification

end SagaMind.Contracts
