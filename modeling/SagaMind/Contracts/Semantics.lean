import SagaMind.Contracts.Verifier

/-!
# What a contract means

Expressions denote values, conditions hold or not, and a transition leads from
one record to another, all of it said without an evaluator. A case of a contract
is one choice from the domain of each variable. A contract is demonstrated when
it is valid and every admissible case keeps its promises.
-/

namespace SagaMind.Contracts

open Choices

set_option autoImplicit false

inductive Denotes (env : Environment) : Expression → Scalar → Prop
  | literal (value) : Denotes env (.literal value) value
  | ref {name source value} (bound : env.source source name = some value) :
      Denotes env (.ref name source) value
  | integers {operator left right m n} (first : Denotes env left (.int m))
      (second : Denotes env right (.int n)) :
      Denotes env (.binary operator left right) (.int (operator.apply m n))
  | reals {operator left right v w a b} (first : Denotes env left v)
      (second : Denotes env right w) (fractional : v.valueType = .real ∨ w.valueType = .real)
      (leftMagnitude : v.magnitude? = some a) (rightMagnitude : w.magnitude? = some b) :
      Denotes env (.binary operator left right) (.real (operator.apply a b))

def Same (left right : Scalar) : Prop :=
  (∃ number, left.number? = some number ∧ right.number? = some number) ∨
    ∃ text, left = .str text ∧ right = .str text

def Below (left right : Scalar) : Prop :=
  (∃ a b, left.number? = some a ∧ right.number? = some b ∧ a < b) ∨
    ∃ s t, left = .str s ∧ right = .str t ∧ s < t

def Related : ComparisonOperator → Scalar → Scalar → Prop
  | .eq, left, right => Same left right
  | .ne, left, right => ¬Same left right
  | .lt, left, right => Below left right
  | .le, left, right => Below left right ∨ Same left right
  | .gt, left, right => Below right left
  | .ge, left, right => Below right left ∨ Same left right

mutual

def Holds (env : Environment) : Condition → Prop
  | .boolConstant value => value = true
  | .comparison operator left right =>
      ∃ v w, Denotes env left v ∧ Denotes env right w ∧ Related operator v w
  | .allOf conditions => HoldAll env conditions
  | .anyOf conditions => HoldAny env conditions
  | .not condition => ¬Holds env condition

def HoldAll (env : Environment) : List Condition → Prop
  | [] => True
  | head :: tail => Holds env head ∧ HoldAll env tail

def HoldAny (env : Environment) : List Condition → Prop
  | [] => False
  | head :: tail => Holds env head ∨ HoldAny env tail

end

/-- Assigned variables take the values of their expressions in the old state,
the others keep theirs. -/
structure Leads (transition : Transition) (env : Environment) (after : Record) : Prop where
  assigned : ∀ assignment ∈ transition.assignments, ∃ value,
    Denotes env assignment.value value ∧ after assignment.target = some value
  kept : ∀ name, name ∉ transition.assignments.map Assignment.target → after name = env.state name

def Admits (contract : CompensationContract) (state inputs : Record) : Prop :=
  Holds ⟨state, state, inputs⟩ contract.precondition

/-- The forward transition keeps the postcondition, and the compensation run on
its result keeps the restoration condition. -/
def Reverses (contract : CompensationContract) (state inputs : Record) : Prop :=
  ∃ after, Leads contract.forward ⟨state, state, inputs⟩ after ∧
    Holds ⟨after, state, inputs⟩ contract.postcondition ∧
    ∃ restored, Leads contract.compensation ⟨after, state, inputs⟩ restored ∧
      Holds ⟨restored, state, inputs⟩ contract.restoration

section Domains

def VariableSpec.points (spec : VariableSpec) : List Scalar :=
  if spec.allowedValues ≠ [] then spec.allowedValues
  else
    match spec.valueType, spec.minimum, spec.maximum with
    | .boolean, _, _ => [.bool false, .bool true]
    | .integer, some least, some greatest => integerRange least greatest
    | _, _, _ => []

structure FiniteDomain (maxCases : Nat) (spec : VariableSpec) : Prop where
  nonempty : spec.points ≠ []
  typed : ∀ value ∈ spec.points, matchesType value spec.valueType = true
  small : spec.points.length ≤ maxCases

/-- One point for every state variable and every input variable. -/
def Case (contract : CompensationContract) : Type :=
  Choice (contract.stateVariables.map VariableSpec.points) ×
    Choice (contract.inputVariables.map VariableSpec.points)

namespace Case

variable {contract : CompensationContract}

def state (point : Case contract) : Record :=
  record (contract.stateVariables.map VariableSpec.name) point.1.values

def inputs (point : Case contract) : Record :=
  record (contract.inputVariables.map VariableSpec.name) point.2.values

def Admissible (point : Case contract) : Prop := Admits contract point.state point.inputs

end Case

/-- What a proof of a contract says. -/
structure Demonstrated (host : Host) (maxCases : Nat) (contract : CompensationContract) : Prop where
  valid : validateContract host contract = .ok ()
  domains : ∀ spec ∈ contract.stateVariables ++ contract.inputVariables,
    FiniteDomain maxCases spec
  size : Nat.card (Case contract) ≤ maxCases
  satisfiable : ∃ point : Case contract, point.Admissible
  correct : ∀ point : Case contract, point.Admissible →
    Reverses contract point.state point.inputs

end Domains

end SagaMind.Contracts
