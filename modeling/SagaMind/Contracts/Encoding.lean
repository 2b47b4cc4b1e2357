import Mathlib.Data.List.Basic
import Mathlib.Data.Option.Basic
import SagaMind.Contracts.Dsl

/-!
# What the dictionary of a contract keeps

Every part of a contract can be read back from its dictionary, except which of
the two connectives a condition uses.
-/

namespace SagaMind.Contracts

set_option autoImplicit false

section Parts

def Value.entry : Value → String → Option Value
  | .dict entries, key => entries key
  | _, _ => none

@[simp]
theorem entry_fields (entries : List (String × Value)) (key : String) :
    (Value.fields entries).entry key = entries.lookup key := rfl

theorem same_entry {first second : Value} (same : first = second) (key : String) :
    first.entry key = second.entry key := by rw [same]

theorem scalar_value_injective : Function.Injective Scalar.toValue := by
  intro first second same
  cases first <;> cases second <;> simp_all [Scalar.toValue]

theorem bound_value_injective : Function.Injective boundValue := by
  intro first second same
  cases first <;> cases second <;> simp_all [boundValue]

theorem value_type_injective : Function.Injective ValueType.value := by
  intro first second same
  cases first <;> cases second <;> simp_all [ValueType.value]

theorem source_value_injective : Function.Injective RefSource.value := by
  intro first second same
  cases first <;> cases second <;> simp_all [RefSource.value]

theorem arithmetic_value_injective : Function.Injective ArithmeticOperator.value := by
  intro first second same
  cases first <;> cases second <;> simp_all [ArithmeticOperator.value]

theorem comparison_value_injective : Function.Injective ComparisonOperator.value := by
  intro first second same
  cases first <;> cases second <;> simp_all [ComparisonOperator.value]

theorem spec_value_injective : Function.Injective VariableSpec.toValue := by
  intro first second same
  have names := same_entry same "name"
  have valueTypes := same_entry same "value_type"
  have minimums := same_entry same "minimum"
  have maximums := same_entry same "maximum"
  have allowed := same_entry same "allowed_values"
  simp only [VariableSpec.toValue, entry_fields, List.lookup_cons, List.lookup_nil]
    at names valueTypes minimums maximums allowed
  simp at names valueTypes minimums maximums allowed
  cases first with
  | mk name valueType minimum maximum allowedValues identifier together ordered =>
    cases second
    dsimp only at names valueTypes minimums maximums allowed
    rw [VariableSpec.mk.injEq]
    exact ⟨names, value_type_injective valueTypes, bound_value_injective minimums,
      bound_value_injective maximums, scalar_value_injective.list_map allowed⟩

/-- By induction on the expression: its field names tell its constructor. -/
theorem expression_value_injective : Function.Injective Expression.toValue := by
  intro first
  induction first with
  | ref name source =>
      intro second same
      have names := same_entry same "name"
      have sources := same_entry same "source"
      cases second with
      | ref other otherSource =>
          simp [Expression.toValue, List.lookup_cons] at names sources
          rw [names, source_value_injective sources]
      | literal value => simp [Expression.toValue, List.lookup_cons] at names
      | binary operator left right => simp [Expression.toValue, List.lookup_cons] at names
  | literal value =>
      intro second same
      have values := same_entry same "value"
      cases second with
      | ref name source => simp [Expression.toValue, List.lookup_cons] at values
      | literal other =>
          simp [Expression.toValue] at values
          rw [scalar_value_injective values]
      | binary operator left right => simp [Expression.toValue, List.lookup_cons] at values
  | binary operator left right leftInjective rightInjective =>
      intro second same
      have operators := same_entry same "operator"
      have lefts := same_entry same "left"
      have rights := same_entry same "right"
      cases second with
      | ref name source => simp [Expression.toValue, List.lookup_cons] at operators
      | literal value => simp [Expression.toValue, List.lookup_cons] at operators
      | binary other otherLeft otherRight =>
          simp [Expression.toValue, List.lookup_cons] at operators lefts rights
          rw [arithmetic_value_injective operators, leftInjective lefts, rightInjective rights]

theorem assignment_value_injective : Function.Injective Assignment.toValue := by
  intro first second same
  have targets := same_entry same "target"
  have values := same_entry same "value"
  simp [Assignment.toValue, List.lookup_cons] at targets values
  cases first
  cases second
  rw [Assignment.mk.injEq]
  exact ⟨targets, expression_value_injective values⟩

theorem transition_value_injective : Function.Injective Transition.toValue := by
  intro first second same
  have assignments := same_entry same "assignments"
  simp [Transition.toValue] at assignments
  cases first
  cases second
  rw [Transition.mk.injEq]
  exact assignment_value_injective.list_map assignments

end Parts

section Conditions

variable {other : Condition}

theorem to_values_eq_map (conditions : List Condition) :
    Condition.toValues conditions = conditions.map Condition.toValue := by
  induction conditions with
  | nil => simp [Condition.toValues]
  | cons head tail ih => simp [Condition.toValues, ih]

theorem constant_of_value {value : Bool}
    (same : other.toValue = (Condition.boolConstant value).toValue) :
    other = .boolConstant value := by
  have values := same_entry same "value"
  cases other <;> simp [Condition.toValue, List.lookup_cons] at values
  rw [values]

theorem comparison_of_value {operator : ComparisonOperator} {left right : Expression}
    (same : other.toValue = (Condition.comparison operator left right).toValue) :
    other = .comparison operator left right := by
  have operators := same_entry same "operator"
  have lefts := same_entry same "left"
  have rights := same_entry same "right"
  cases other <;> simp [Condition.toValue, List.lookup_cons] at operators lefts rights
  rw [comparison_value_injective operators, expression_value_injective lefts,
    expression_value_injective rights]

theorem not_of_value {condition : Condition}
    (same : other.toValue = (Condition.not condition).toValue) :
    ∃ inner, other = .not inner ∧ inner.toValue = condition.toValue := by
  have inner := same_entry same "condition"
  cases other <;> simp [Condition.toValue, List.lookup_cons] at inner
  exact ⟨_, rfl, inner⟩

/-- A list of conditions reads the same under both connectives. -/
theorem listed_of_value {conditions : List Condition}
    (same : other.toValue = (Condition.allOf conditions).toValue) :
    ∃ items, (other = .allOf items ∨ other = .anyOf items) ∧
      items.map Condition.toValue = conditions.map Condition.toValue := by
  have items := same_entry same "conditions"
  cases other <;> simp [Condition.toValue, List.lookup_cons, to_values_eq_map] at items
  · exact ⟨_, .inl rfl, items⟩
  · exact ⟨_, .inr rfl, items⟩

theorem any_value_eq_all (conditions : List Condition) :
    (Condition.anyOf conditions).toValue = (Condition.allOf conditions).toValue := by
  rw [Condition.toValue, Condition.toValue]

end Conditions

/-- Contracts with one dictionary differ in their conditions only. -/
theorem same_dictionary {first second : CompensationContract}
    (same : first.toDict = second.toDict) :
    ∃ precondition postcondition restoration,
      precondition.toValue = second.precondition.toValue ∧
      postcondition.toValue = second.postcondition.toValue ∧
      restoration.toValue = second.restoration.toValue ∧
      first = { second with precondition, postcondition, restoration } := by
  have name : first.name = second.name := by
    simpa [CompensationContract.toDict, List.lookup_cons] using same_entry same "name"
  have stateVariables : first.stateVariables.map VariableSpec.toValue =
      second.stateVariables.map VariableSpec.toValue := by
    simpa [CompensationContract.toDict, List.lookup_cons] using same_entry same "state_variables"
  have inputVariables : first.inputVariables.map VariableSpec.toValue =
      second.inputVariables.map VariableSpec.toValue := by
    simpa [CompensationContract.toDict, List.lookup_cons] using same_entry same "input_variables"
  have precondition : first.precondition.toValue = second.precondition.toValue := by
    simpa [CompensationContract.toDict, List.lookup_cons] using same_entry same "precondition"
  have forward : first.forward.toValue = second.forward.toValue := by
    simpa [CompensationContract.toDict, List.lookup_cons] using same_entry same "forward"
  have postcondition : first.postcondition.toValue = second.postcondition.toValue := by
    simpa [CompensationContract.toDict, List.lookup_cons] using same_entry same "postcondition"
  have compensation : first.compensation.toValue = second.compensation.toValue := by
    simpa [CompensationContract.toDict, List.lookup_cons] using same_entry same "compensation"
  have restoration : first.restoration.toValue = second.restoration.toValue := by
    simpa [CompensationContract.toDict, List.lookup_cons] using same_entry same "restoration"
  have identity : first.implementationIdentity = second.implementationIdentity := by
    simpa [CompensationContract.toDict, List.lookup_cons] using
      same_entry same "implementation_identity"
  have version : first.version = second.version := by
    simpa [CompensationContract.toDict, List.lookup_cons] using same_entry same "version"
  have effects : first.irreversibleEffects.map Value.str =
      second.irreversibleEffects.map Value.str := by
    simpa [CompensationContract.toDict, List.lookup_cons] using
      same_entry same "irreversible_effects"
  have metadata : (fun key => (first.metadata key).map Value.str) =
      fun key => (second.metadata key).map Value.str := by
    simpa [CompensationContract.toDict, List.lookup_cons] using same_entry same "metadata"
  have text : Function.Injective Value.str := fun _ _ => Value.str.inj
  have metadata : first.metadata = second.metadata := by
    funext key
    exact Option.map_injective text (congrFun metadata key)
  refine ⟨_, _, _, precondition, postcondition, restoration, ?_⟩
  cases first
  cases second
  rw [CompensationContract.mk.injEq]
  exact ⟨name, spec_value_injective.list_map stateVariables,
    spec_value_injective.list_map inputVariables, rfl, transition_value_injective forward, rfl,
    transition_value_injective compensation, rfl, identity, version,
    text.list_map effects, metadata⟩

end SagaMind.Contracts
