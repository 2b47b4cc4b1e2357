import Mathlib.Data.Rat.Defs

/-!
# Typed DSL for reversible tool contracts

The syntax of `src/contracts/dsl.py`. Numbers are exact: a `float` is a rational.
What `__post_init__` checks is a field of the structure. A `dict` is what it
maps its keys to.
-/

namespace SagaMind.Contracts

set_option autoImplicit false

inductive Scalar where
  | bool (value : Bool)
  | int (value : Int)
  | real (value : Rat)
  | str (value : String)
  deriving DecidableEq

inductive ValueType where
  | integer
  | real
  | boolean
  | string
  deriving DecidableEq

def ValueType.value : ValueType → String
  | .integer => "integer"
  | .real => "real"
  | .boolean => "boolean"
  | .string => "string"

inductive RefSource where
  | state
  | original
  | input
  deriving DecidableEq

def RefSource.value : RefSource → String
  | .state => "state"
  | .original => "original"
  | .input => "input"

inductive ArithmeticOperator where
  | add
  | subtract
  | multiply
  deriving DecidableEq

def ArithmeticOperator.value : ArithmeticOperator → String
  | .add => "add"
  | .subtract => "subtract"
  | .multiply => "multiply"

inductive ComparisonOperator where
  | eq
  | ne
  | lt
  | le
  | gt
  | ge
  deriving DecidableEq

def ComparisonOperator.value : ComparisonOperator → String
  | .eq => "eq"
  | .ne => "ne"
  | .lt => "lt"
  | .le => "le"
  | .gt => "gt"
  | .ge => "ge"

/-- `_IDENTIFIER.fullmatch`. -/
def isIdentifier (name : String) : Bool :=
  match name.toList with
  | [] => false
  | first :: rest => (first.isAlpha || first = '_') && rest.all fun c => c.isAlphanum || c = '_'

/-- The characters that `str.strip` removes. -/
def isSpace (c : Char) : Bool :=
  (9 ≤ c.toNat && c.toNat ≤ 13) || (28 ≤ c.toNat && c.toNat ≤ 32) || c.toNat = 133 ||
    c.toNat = 160 || c.toNat = 5760 || (8192 ≤ c.toNat && c.toNat ≤ 8202) || c.toNat = 8232 ||
    c.toNat = 8233 || c.toNat = 8239 || c.toNat = 8287 || c.toNat = 12288

/-- `not text.strip()`. -/
def blank (text : String) : Bool := text.toList.all isSpace

structure VariableSpec where
  name : String
  valueType : ValueType
  minimum : Option Int := none
  maximum : Option Int := none
  allowedValues : List Scalar := []
  identifier : isIdentifier name = true
  together : minimum.isNone = maximum.isNone
  ordered : ∀ least ∈ minimum, ∀ greatest ∈ maximum, least ≤ greatest

inductive Expression where
  | ref (name : String) (source : RefSource)
  | literal (value : Scalar)
  | binary (operator : ArithmeticOperator) (left right : Expression)

inductive Condition where
  | boolConstant (value : Bool)
  | comparison (operator : ComparisonOperator) (left right : Expression)
  | allOf (conditions : List Condition)
  | anyOf (conditions : List Condition)
  | not (condition : Condition)

structure Assignment where
  target : String
  value : Expression

structure Transition where
  assignments : List Assignment := []

/-- Complete, typed specification of a reversible state transition. -/
structure CompensationContract where
  name : String
  stateVariables : List VariableSpec
  inputVariables : List VariableSpec
  precondition : Condition
  forward : Transition
  postcondition : Condition
  compensation : Transition
  restoration : Condition
  implementationIdentity : String
  version : String := "1"
  irreversibleEffects : List String := []
  metadata : String → Option String := fun _ => none
  named : blank name = false

/-- Induction over a condition, with the hypothesis for every listed one. -/
@[elab_as_elim]
theorem Condition.induction {motive : Condition → Prop}
    (boolConstant : ∀ value, motive (.boolConstant value))
    (comparison : ∀ operator left right, motive (.comparison operator left right))
    (allOf : ∀ conditions, (∀ item ∈ conditions, motive item) → motive (.allOf conditions))
    (anyOf : ∀ conditions, (∀ item ∈ conditions, motive item) → motive (.anyOf conditions))
    (not : ∀ condition, motive condition → motive (.not condition)) :
    ∀ condition, motive condition := by
  apply @Condition.rec motive fun conditions => ∀ item ∈ conditions, motive item
  · exact boolConstant
  · exact comparison
  · exact allOf
  · exact anyOf
  · exact not
  · exact nofun
  · intro head tail here later item member
    rcases List.mem_cons.mp member with rfl | other
    · exact here
    · exact later item other

section Encoding

/-- A value built of dictionaries, lists and scalars, as `json.dumps` takes it. -/
inductive Value where
  | none
  | bool (value : Bool)
  | int (value : Int)
  | real (value : Rat)
  | str (value : String)
  | list (items : List Value)
  | dict (entries : String → Option Value)

def Value.fields (entries : List (String × Value)) : Value := .dict fun key => entries.lookup key

def Scalar.toValue : Scalar → Value
  | .bool value => .bool value
  | .int value => .int value
  | .real value => .real value
  | .str value => .str value

/-- An `int | None`. -/
def boundValue : Option Int → Value
  | none => .none
  | some value => .int value

def VariableSpec.toValue (spec : VariableSpec) : Value :=
  .fields [
    ("name", .str spec.name),
    ("value_type", .str spec.valueType.value),
    ("minimum", boundValue spec.minimum),
    ("maximum", boundValue spec.maximum),
    ("allowed_values", .list (spec.allowedValues.map Scalar.toValue))]

def Expression.toValue : Expression → Value
  | .ref name source => .fields [("name", .str name), ("source", .str source.value)]
  | .literal value => .fields [("value", value.toValue)]
  | .binary operator left right =>
      .fields [("operator", .str operator.value), ("left", left.toValue), ("right", right.toValue)]

mutual

/-- `asdict` keeps the field names of a condition and drops its constructor. -/
def Condition.toValue : Condition → Value
  | .boolConstant value => .fields [("value", .bool value)]
  | .comparison operator left right =>
      .fields [("operator", .str operator.value), ("left", left.toValue), ("right", right.toValue)]
  | .allOf conditions => .fields [("conditions", .list (Condition.toValues conditions))]
  | .anyOf conditions => .fields [("conditions", .list (Condition.toValues conditions))]
  | .not condition => .fields [("condition", condition.toValue)]

def Condition.toValues : List Condition → List Value
  | [] => []
  | head :: tail => head.toValue :: Condition.toValues tail

end

def Assignment.toValue (assignment : Assignment) : Value :=
  .fields [("target", .str assignment.target), ("value", assignment.value.toValue)]

def Transition.toValue (transition : Transition) : Value :=
  .fields [("assignments", .list (transition.assignments.map Assignment.toValue))]

/-- `to_dict`: `asdict` with every enumeration replaced by its value. -/
def CompensationContract.toDict (contract : CompensationContract) : Value :=
  .fields [
    ("name", .str contract.name),
    ("state_variables", .list (contract.stateVariables.map VariableSpec.toValue)),
    ("input_variables", .list (contract.inputVariables.map VariableSpec.toValue)),
    ("precondition", contract.precondition.toValue),
    ("forward", contract.forward.toValue),
    ("postcondition", contract.postcondition.toValue),
    ("compensation", contract.compensation.toValue),
    ("restoration", contract.restoration.toValue),
    ("implementation_identity", .str contract.implementationIdentity),
    ("version", .str contract.version),
    ("irreversible_effects", .list (contract.irreversibleEffects.map Value.str)),
    ("metadata", .dict fun key => (contract.metadata key).map Value.str)]

end Encoding

end SagaMind.Contracts
