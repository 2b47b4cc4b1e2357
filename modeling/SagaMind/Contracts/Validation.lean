import SagaMind.Contracts.Soundness

/-!
# Validation raises only what is caught

A `KeyError` would escape `verify`. Validation and the domains never raise one:
whatever they look up by name they have checked to exist.
-/

namespace SagaMind.Contracts

set_option autoImplicit false

section Caught

variable {host : Host} {stateSpecs inputSpecs : List VariableSpec}

/-- No `KeyError` escapes. -/
def Caught {Result : Type} (checked : Checked Result) : Prop :=
  ∀ name, checked ≠ .error (.keyError name)

theorem Caught.bind {First Result : Type} {first : Checked First} {next : First → Checked Result}
    (caught : Caught first) (later : ∀ value, first = .ok value → Caught (next value)) :
    Caught (first >>= next) := by
  intro name
  cases computed : first with
  | error error =>
      intro escaped
      cases escaped
      exact caught name computed
  | ok value => exact later value computed name

theorem caught_ok {Result : Type} (value : Result) : Caught (.ok value) := by
  intro name
  simp

theorem caught_verification {Result : Type} (message : String) :
    Caught (.error (.verification message) : Checked Result) := by
  intro name
  simp

theorem caught_unsupported {Result : Type} (message : String) :
    Caught (.error (.unsupported message) : Checked Result) := by
  intro name
  simp

theorem caught_too_large {Result : Type} (message : String) :
    Caught (.error (.tooLarge message) : Checked Result) := by
  intro name
  simp

theorem expression_refs_caught (expression : Expression) :
    Caught (validateExpressionRefs stateSpecs inputSpecs expression) := by
  induction expression with
  | ref name source =>
      rw [validateExpressionRefs]
      split
      · exact caught_ok ()
      · exact caught_verification _
  | literal value => exact caught_ok ()
  | binary operator left right first second =>
      rw [validateExpressionRefs]
      exact first.bind fun _ _ => second

theorem expression_type_caught {expression : Expression}
    (known : validateExpressionRefs stateSpecs inputSpecs expression = .ok ()) :
    Caught (inferExpressionType stateSpecs inputSpecs expression) := by
  induction expression with
  | ref name source =>
      rw [validateExpressionRefs] at known
      rw [inferExpressionType]
      split at known
      next found =>
        obtain ⟨spec, lookup⟩ := Option.isSome_iff_exists.mp found
        rw [lookup]
        exact caught_ok _
      next => cases known
  | literal value => exact caught_ok _
  | binary operator left right first second =>
      simp only [validateExpressionRefs, checked_then] at known
      rw [inferExpressionType]
      apply (first known.1).bind
      intro leftType leftInferred
      apply (second known.2).bind
      intro rightType rightInferred
      split
      · exact caught_ok _
      · exact caught_verification _

theorem validate_all_refs_iff {conditions : List Condition} :
    validateAllRefs stateSpecs inputSpecs conditions = .ok () ↔
      ∀ item ∈ conditions, validateRefs stateSpecs inputSpecs item = .ok () := by
  induction conditions with
  | nil => simp [validateAllRefs, pure, Except.pure]
  | cons head tail ih => simp [validateAllRefs, checked_then, ih]

theorem refs_caught (condition : Condition) :
    Caught (validateRefs stateSpecs inputSpecs condition) := by
  have listed : ∀ conditions : List Condition,
      (∀ item ∈ conditions, Caught (validateRefs stateSpecs inputSpecs item)) →
      Caught (validateAllRefs stateSpecs inputSpecs conditions) := by
    intro conditions each
    induction conditions with
    | nil => exact caught_ok ()
    | cons head tail ih =>
        rw [validateAllRefs]
        apply (each head List.mem_cons_self).bind
        intro _ _
        exact ih fun item member => each item (.tail head member)
  induction condition using Condition.induction with
  | boolConstant value =>
      rw [validateRefs]
      exact caught_ok ()
  | comparison operator left right =>
      rw [validateRefs]
      exact (expression_refs_caught left).bind fun _ _ => expression_refs_caught right
  | allOf conditions ih =>
      rw [validateRefs]
      exact listed conditions ih
  | anyOf conditions ih =>
      rw [validateRefs]
      exact listed conditions ih
  | not condition ih =>
      rw [validateRefs]
      exact ih

theorem types_caught (condition : Condition)
    (known : validateRefs stateSpecs inputSpecs condition = .ok ()) :
    Caught (validateConditionTypes stateSpecs inputSpecs condition) := by
  have listed : ∀ conditions : List Condition,
      (∀ item ∈ conditions, Caught (validateConditionTypes stateSpecs inputSpecs item)) →
      Caught (validateAllTypes stateSpecs inputSpecs conditions) := by
    intro conditions each
    induction conditions with
    | nil => exact caught_ok ()
    | cons head tail ih =>
        rw [validateAllTypes]
        apply (each head List.mem_cons_self).bind
        intro _ _
        exact ih fun item member => each item (.tail head member)
  induction condition using Condition.induction with
  | boolConstant value =>
      rw [validateConditionTypes]
      exact caught_ok ()
  | comparison operator left right =>
      simp only [validateRefs, checked_then] at known
      rw [validateConditionTypes]
      apply (expression_type_caught known.1).bind
      intro leftType leftInferred
      apply (expression_type_caught known.2).bind
      intro rightType rightInferred
      split
      · exact caught_ok ()
      · exact caught_verification _
  | allOf conditions ih =>
      rw [validateRefs, validate_all_refs_iff] at known
      rw [validateConditionTypes]
      exact listed conditions fun item member => ih item member (known item member)
  | anyOf conditions ih =>
      rw [validateRefs, validate_all_refs_iff] at known
      rw [validateConditionTypes]
      exact listed conditions fun item member => ih item member (known item member)
  | not condition ih =>
      rw [validateRefs] at known
      rw [validateConditionTypes]
      exact ih known

theorem condition_caught (condition : Condition) :
    Caught (validateCondition stateSpecs inputSpecs condition) := by
  rw [validateCondition]
  exact (refs_caught condition).bind fun _ known => types_caught condition known

theorem targets_caught (transitionName : String) (transition : Transition) :
    Caught (validateTargets host stateSpecs transitionName transition) := by
  intro name
  rw [validateTargets]
  split_ifs <;> simp [pure, Except.pure]

theorem targets_known {transitionName : String} {transition : Transition}
    (valid : validateTargets host stateSpecs transitionName transition = .ok ()) :
    ∀ assignment ∈ transition.assignments,
      ∃ spec, lookupSpec stateSpecs assignment.target = some spec := by
  intro assignment listed
  rw [validateTargets] at valid
  split_ifs at valid with repeated unknown
  rw [not_not, List.filter_eq_nil_iff] at unknown
  have known := unknown assignment.target (List.mem_map_of_mem listed)
  cases found : lookupSpec stateSpecs assignment.target with
  | none => simp [found] at known
  | some spec => exact ⟨spec, rfl⟩

theorem assignments_caught {assignments : List Assignment}
    (known : ∀ assignment ∈ assignments,
      ∃ spec, lookupSpec stateSpecs assignment.target = some spec) :
    Caught (validateAssignments host stateSpecs inputSpecs assignments) := by
  induction assignments with
  | nil => exact caught_ok ()
  | cons assignment rest ih =>
      rw [List.forall_mem_cons] at known
      obtain ⟨⟨spec, found⟩, others⟩ := known
      rw [validateAssignments]
      refine Caught.bind ?_ fun _ _ => ih others
      rw [validateAssignment]
      apply (expression_refs_caught assignment.value).bind
      intro _ references
      apply (expression_type_caught references).bind
      intro valueType inferred
      rw [found]
      dsimp only
      split
      · exact caught_ok ()
      · exact caught_verification _

theorem shape_caught (contract : CompensationContract) : Caught (validateShape contract) := by
  intro name
  rw [validateShape]
  split_ifs <;> simp [pure, Except.pure]

/-- Validation looks up nothing that it has not checked before. -/
theorem validation_caught (host : Host) (contract : CompensationContract) :
    Caught (validateContract host contract) := by
  rw [validateContract]
  apply (shape_caught contract).bind
  intro _ _
  apply (targets_caught _ _).bind
  intro _ forward
  apply (targets_caught _ _).bind
  intro _ compensation
  apply (condition_caught _).bind
  intro _ _
  apply (condition_caught _).bind
  intro _ _
  apply (condition_caught _).bind
  intro _ _
  apply (assignments_caught (targets_known forward)).bind
  intro _ _
  exact assignments_caught (targets_known compensation)

theorem domain_caught (host : Host) (spec : VariableSpec) (maxPoints : Nat) :
    Caught (domain host spec maxPoints) := by
  rw [domain]
  apply Caught.bind
  · rw [declaredValues]
    split
    · exact caught_ok _
    · split
      · exact caught_ok _
      · split
        · exact caught_too_large _
        · exact caught_ok _
      · exact caught_unsupported _
  · intro values declared
    split
    · exact caught_verification _
    · split
      · exact caught_too_large _
      · split
        · exact caught_verification _
        · exact caught_ok _

theorem domains_caught (host : Host) (specs : List VariableSpec) (maxPoints : Nat) :
    Caught (domains host maxPoints specs) := by
  induction specs with
  | nil => exact caught_ok _
  | cons spec rest ih =>
      rw [domains]
      apply (domain_caught host spec maxPoints).bind
      intro values _
      exact ih.bind fun later _ => caught_ok _

theorem prepare_caught (verifier : BoundedContractVerifier) (host : Host)
    (contract : CompensationContract) : Caught (verifier.prepare host contract) := by
  rw [BoundedContractVerifier.prepare]
  apply (validation_caught host contract).bind
  intro _ _
  apply (domains_caught host _ _).bind
  intro stateDomains _
  exact (domains_caught host _ _).bind fun inputDomains _ => caught_ok _

end Caught

end SagaMind.Contracts
