import Mathlib.Data.String.Basic
import SagaMind.Contracts.Semantics

/-!
# The evaluator agrees with the meaning

On records that fit their variables a validated contract evaluates without an
error, to what it means.
-/

namespace SagaMind.Contracts

set_option autoImplicit false

theorem checked_bind {α β : Type} {first : Checked α} {next : α → Checked β} {result : β} :
    (first >>= next) = .ok result ↔ ∃ value, first = .ok value ∧ next value = .ok result := by
  cases first with
  | error error => simp [bind, Except.bind]
  | ok value => simp [bind, Except.bind]

theorem checked_then {β : Type} {first : Checked Unit} {next : Unit → Checked β} {result : β} :
    (first >>= next) = .ok result ↔ first = .ok () ∧ next () = .ok result := by
  rw [checked_bind]
  constructor
  · rintro ⟨⟨⟩, checked, later⟩
    exact ⟨checked, later⟩
  · intro both
    exact ⟨(), both⟩

section Scalars

variable {left right : Scalar} {a b : Rat}

def Comparable (left right : Scalar) : Prop :=
  (∃ a b, left.number? = some a ∧ right.number? = some b) ∨ ∃ s t, left = .str s ∧ right = .str t

theorem matches_kind {value : Scalar} {valueType : ValueType}
    (matching : matchesType value valueType = true) :
    (valueType = .string ∧ ∃ text, value = .str text) ∨
      (valueType ≠ .string ∧ ∃ number, value.number? = some number) := by
  cases value with
  | bool value =>
      right
      cases valueType <;> simp_all [matchesType, Scalar.number?]
  | int value =>
      right
      cases valueType <;> simp_all [matchesType, Scalar.number?, Scalar.magnitude?]
  | real value =>
      right
      cases valueType <;> simp_all [matchesType, Scalar.number?, Scalar.magnitude?]
  | str text =>
      left
      cases valueType <;> simp_all [matchesType]

theorem compatible_comparable {leftType rightType : ValueType}
    (leftMatches : matchesType left leftType = true)
    (rightMatches : matchesType right rightType = true)
    (compatible : compatibleTypes leftType rightType = true) : Comparable left right := by
  rcases matches_kind leftMatches with ⟨rfl, s, rfl⟩ | ⟨notText, a, numbered⟩
  · rcases matches_kind rightMatches with ⟨rfl, t, rfl⟩ | ⟨notText, -⟩
    · exact .inr ⟨s, t, rfl, rfl⟩
    · cases rightType <;> simp_all [compatibleTypes]
  · rcases matches_kind rightMatches with ⟨rfl, t, rfl⟩ | ⟨-, b, other⟩
    · cases leftType <;> simp_all [compatibleTypes]
    · exact .inl ⟨a, b, numbered, other⟩

theorem same_numbers (first : left.number? = some a) (second : right.number? = some b) :
    Same left right ↔ a = b := by
  constructor
  · intro same
    rcases same with ⟨number, one, two⟩ | ⟨text, rfl, rfl⟩
    · rw [first] at one
      rw [second] at two
      exact (Option.some.inj one).trans (Option.some.inj two).symm
    · cases first
  · intro equal
    rw [equal] at first
    exact .inl ⟨b, first, second⟩

theorem below_numbers (first : left.number? = some a) (second : right.number? = some b) :
    Below left right ↔ a < b := by
  constructor
  · intro below
    rcases below with ⟨x, y, one, two, less⟩ | ⟨s, t, rfl, rfl, -⟩
    · rw [first] at one
      rw [second] at two
      rw [Option.some.inj one, Option.some.inj two]
      exact less
    · cases first
  · exact fun less => .inl ⟨a, b, first, second, less⟩

theorem same_texts (s t : String) : Same (.str s) (.str t) ↔ s = t := by
  simp [Same, Scalar.number?, Scalar.magnitude?, eq_comm]

theorem Same.comm {left right : Scalar} : Same left right ↔ Same right left := by
  constructor
  · rintro (⟨number, one, two⟩ | ⟨text, one, two⟩)
    · exact .inl ⟨number, two, one⟩
    · exact .inr ⟨text, two, one⟩
  · rintro (⟨number, one, two⟩ | ⟨text, one, two⟩)
    · exact .inl ⟨number, two, one⟩
    · exact .inr ⟨text, two, one⟩

theorem below_texts (s t : String) : Below (.str s) (.str t) ↔ s < t := by
  simp [Below, Scalar.number?, Scalar.magnitude?]

theorem equals_numbers (first : left.number? = some a) (second : right.number? = some b) :
    equals left right = decide (a = b) := by
  cases left <;> cases right <;>
    simp_all [equals, Scalar.number?, Scalar.magnitude?]

theorem ordering_numbers {symbol : String} {numbers : Rat → Rat → Bool}
    {texts : String → String → Bool} (first : left.number? = some a)
    (second : right.number? = some b) :
    ordering symbol numbers texts left right = .ok (numbers a b) := by
  cases left <;> cases right <;>
    simp_all [ordering, Scalar.number?, Scalar.magnitude?, pure, Except.pure]

/-- A comparison of comparable values decides how they are related. -/
theorem compare_decides (operator : ComparisonOperator) (comparable : Comparable left right) :
    ∃ value, compare operator left right = .ok value ∧
      (value = true ↔ Related operator left right) := by
  rcases comparable with ⟨a, b, first, second⟩ | ⟨s, t, rfl, rfl⟩
  · cases operator with
    | eq => exact ⟨_, rfl, by simp [equals_numbers first second, Related, same_numbers first second]⟩
    | ne => exact ⟨_, rfl, by simp [equals_numbers first second, Related, same_numbers first second]⟩
    | lt => exact ⟨_, ordering_numbers first second, by simp [Related, below_numbers first second]⟩
    | le =>
        refine ⟨_, ordering_numbers first second, ?_⟩
        simp [Related, below_numbers first second, same_numbers first second, le_iff_lt_or_eq]
    | gt => exact ⟨_, ordering_numbers first second, by simp [Related, below_numbers second first]⟩
    | ge =>
        refine ⟨_, ordering_numbers first second, ?_⟩
        rw [Related, Same.comm]
        simp [below_numbers second first, same_numbers second first, le_iff_lt_or_eq]
  · cases operator with
    | eq => exact ⟨_, rfl, by simp [equals, Related, same_texts]⟩
    | ne => exact ⟨_, rfl, by simp [equals, Related, same_texts]⟩
    | lt => exact ⟨_, rfl, by simp [Related, below_texts]⟩
    | le => exact ⟨_, rfl, by simp [Related, below_texts, same_texts, le_iff_lt_or_eq]⟩
    | gt => exact ⟨_, rfl, by simp [Related, below_texts]⟩
    | ge =>
        refine ⟨_, rfl, ?_⟩
        rw [Related, Same.comm]
        simp [below_texts, same_texts, le_iff_lt_or_eq]

theorem arithmetic_ok_iff {operator : ArithmeticOperator} {value : Scalar} :
    arithmetic operator left right = .ok value ↔
      (∃ m n, left = .int m ∧ right = .int n ∧ value = .int (operator.apply m n)) ∨
        ∃ a b, (left.valueType = .real ∨ right.valueType = .real) ∧ left.magnitude? = some a ∧
          right.magnitude? = some b ∧ value = .real (operator.apply a b) := by
  cases left <;> cases right <;>
    simp [arithmetic, Scalar.magnitude?, Scalar.valueType, pure, Except.pure, eq_comm]

theorem arithmetic_typed (operator : ArithmeticOperator) {leftType rightType : ValueType}
    (leftMatches : matchesType left leftType = true)
    (rightMatches : matchesType right rightType = true) (leftNumeric : leftType.numeric = true)
    (rightNumeric : rightType.numeric = true) :
    ∃ value, arithmetic operator left right = .ok value ∧
      matchesType value (if leftType = .real || rightType = .real then .real else .integer) =
        true := by
  cases leftType <;> cases left <;> simp_all [matchesType, ValueType.numeric] <;>
    cases rightType <;> cases right <;>
    simp_all [arithmetic, Scalar.magnitude?, pure, Except.pure]

end Scalars

section Expressions

variable {stateSpecs inputSpecs : List VariableSpec} {env : Environment}

theorem lookup_spec_some {specs : List VariableSpec} {name : String} {spec : VariableSpec}
    (found : lookupSpec specs name = some spec) : spec ∈ specs ∧ spec.name = name := by
  have listed := List.mem_of_find?_eq_some found
  have test := List.find?_some found
  exact ⟨listed, by simpa using test⟩

/-- Every variable has a value of its type. -/
def Fits (record : Record) (specs : List VariableSpec) : Prop :=
  ∀ spec ∈ specs, ∃ value, record spec.name = some value ∧
    matchesType value spec.valueType = true

structure Typed (stateSpecs inputSpecs : List VariableSpec) (env : Environment) : Prop where
  state : Fits env.state stateSpecs
  original : Fits env.original stateSpecs
  inputs : Fits env.inputs inputSpecs

theorem Typed.source (typed : Typed stateSpecs inputSpecs env) (source : RefSource) :
    Fits (env.source source) (refSpecs stateSpecs inputSpecs source) := by
  cases source with
  | state => exact typed.state
  | original => exact typed.original
  | input => exact typed.inputs

theorem denotes_iff (env : Environment) (expression : Expression) (value : Scalar) :
    Denotes env expression value ↔ env.expression expression = .ok value := by
  induction expression generalizing value with
  | ref name source =>
      constructor
      · intro denotes
        cases denotes with
        | ref bound => simp [Environment.expression, bound, pure, Except.pure]
      · intro evaluated
        cases bound : env.source source name with
        | none => simp [Environment.expression, bound] at evaluated
        | some found =>
            simp only [Environment.expression, bound, pure, Except.pure, Except.ok.injEq]
              at evaluated
            rw [← evaluated]
            exact .ref bound
  | literal literal =>
      constructor
      · intro denotes
        cases denotes with
        | literal => rfl
      · intro evaluated
        cases evaluated
        exact .literal _
  | binary operator left right first second =>
      simp only [Environment.expression, checked_bind]
      constructor
      · intro denotes
        cases denotes with
        | integers one two =>
            refine ⟨_, (first _).mp one, _, (second _).mp two, arithmetic_ok_iff.mpr ?_⟩
            exact .inl ⟨_, _, rfl, rfl, rfl⟩
        | reals one two fractional leftMagnitude rightMagnitude =>
            refine ⟨_, (first _).mp one, _, (second _).mp two, arithmetic_ok_iff.mpr ?_⟩
            exact .inr ⟨_, _, fractional, leftMagnitude, rightMagnitude, rfl⟩
      · intro evaluated
        obtain ⟨v, one, w, two, computed⟩ := evaluated
        have leftDenotes := (first v).mpr one
        have rightDenotes := (second w).mpr two
        rcases arithmetic_ok_iff.mp computed with
          ⟨m, n, rfl, rfl, rfl⟩ | ⟨a, b, fractional, leftMagnitude, rightMagnitude, rfl⟩
        · exact .integers leftDenotes rightDenotes
        · exact .reals leftDenotes rightDenotes fractional leftMagnitude rightMagnitude

theorem literal_typed (value : Scalar) : matchesType value value.valueType = true := by
  cases value <;> rfl

theorem expression_typed (typed : Typed stateSpecs inputSpecs env) {expression : Expression}
    {valueType : ValueType}
    (inferred : inferExpressionType stateSpecs inputSpecs expression = .ok valueType) :
    ∃ value, env.expression expression = .ok value ∧ matchesType value valueType = true := by
  induction expression generalizing valueType with
  | ref name source =>
      cases found : lookupSpec (refSpecs stateSpecs inputSpecs source) name with
      | none => simp [inferExpressionType, found] at inferred
      | some spec =>
          simp only [inferExpressionType, found, pure, Except.pure, Except.ok.injEq] at inferred
          obtain ⟨listed, rfl⟩ := lookup_spec_some found
          obtain ⟨value, bound, matching⟩ := typed.source source spec listed
          rw [inferred] at matching
          exact ⟨value, by simp [Environment.expression, bound, pure, Except.pure], matching⟩
  | literal value =>
      cases inferred
      exact ⟨value, rfl, literal_typed value⟩
  | binary operator left right first second =>
      simp only [inferExpressionType, checked_bind] at inferred
      obtain ⟨leftType, leftInferred, rightType, rightInferred, joined⟩ := inferred
      obtain ⟨v, leftValue, leftMatches⟩ := first leftInferred
      obtain ⟨w, rightValue, rightMatches⟩ := second rightInferred
      split at joined
      next numeric =>
        simp only [Bool.and_eq_true] at numeric
        cases joined
        obtain ⟨value, computed, matching⟩ :=
          arithmetic_typed operator leftMatches rightMatches numeric.1 numeric.2
        refine ⟨value, ?_, by simpa using matching⟩
        simp only [Environment.expression, checked_bind]
        exact ⟨v, leftValue, w, rightValue, computed⟩
      next => cases joined

end Expressions

section Conditions

variable {stateSpecs inputSpecs : List VariableSpec} {env : Environment}

def Decided (env : Environment) (condition : Condition) : Prop :=
  ∃ value, env.condition condition = .ok value ∧ (value = true ↔ Holds env condition)

theorem all_decided {conditions : List Condition}
    (decided : ∀ item ∈ conditions, Decided env item) :
    ∃ value, env.all conditions = .ok value ∧ (value = true ↔ HoldAll env conditions) := by
  induction conditions with
  | nil => exact ⟨true, rfl, by simp [HoldAll]⟩
  | cons head tail ih =>
      obtain ⟨value, evaluated, meaning⟩ := decided head List.mem_cons_self
      obtain ⟨later, rest, others⟩ := ih fun item member => decided item (.tail head member)
      cases value with
      | false =>
          refine ⟨false, ?_, ?_⟩
          · simp [Environment.all, evaluated, bind, Except.bind, pure, Except.pure]
          · simp_all [HoldAll]
      | true =>
          refine ⟨later, ?_, ?_⟩
          · simp [Environment.all, evaluated, bind, Except.bind, rest]
          · simp_all [HoldAll]

theorem any_decided {conditions : List Condition}
    (decided : ∀ item ∈ conditions, Decided env item) :
    ∃ value, env.any conditions = .ok value ∧ (value = true ↔ HoldAny env conditions) := by
  induction conditions with
  | nil => exact ⟨false, rfl, by simp [HoldAny]⟩
  | cons head tail ih =>
      obtain ⟨value, evaluated, meaning⟩ := decided head List.mem_cons_self
      obtain ⟨later, rest, others⟩ := ih fun item member => decided item (.tail head member)
      cases value with
      | false =>
          refine ⟨later, ?_, ?_⟩
          · simp [Environment.any, evaluated, bind, Except.bind, rest]
          · simp_all [HoldAny]
      | true =>
          refine ⟨true, ?_, ?_⟩
          · simp [Environment.any, evaluated, bind, Except.bind, pure, Except.pure]
          · simp_all [HoldAny]

theorem validate_all_types_iff {conditions : List Condition} :
    validateAllTypes stateSpecs inputSpecs conditions = .ok () ↔
      ∀ item ∈ conditions, validateConditionTypes stateSpecs inputSpecs item = .ok () := by
  induction conditions with
  | nil => simp [validateAllTypes, pure, Except.pure]
  | cons head tail ih => simp [validateAllTypes, checked_then, ih]

/-- By induction on the condition: in a typed environment a well-typed condition
is decided. -/
theorem condition_decided (typed : Typed stateSpecs inputSpecs env) (condition : Condition)
    (valid : validateConditionTypes stateSpecs inputSpecs condition = .ok ()) :
    Decided env condition := by
  induction condition using Condition.induction with
  | boolConstant value => exact ⟨value, rfl, by simp [Holds]⟩
  | comparison operator left right =>
      simp only [validateConditionTypes, checked_bind] at valid
      obtain ⟨leftType, leftInferred, rightType, rightInferred, joined⟩ := valid
      obtain ⟨v, leftValue, leftMatches⟩ := expression_typed typed leftInferred
      obtain ⟨w, rightValue, rightMatches⟩ := expression_typed typed rightInferred
      split at joined
      next compatible =>
        have comparable := compatible_comparable leftMatches rightMatches compatible
        obtain ⟨value, compared, meaning⟩ := compare_decides operator comparable
        refine ⟨value, ?_, meaning.trans ?_⟩
        · simp only [Environment.condition, checked_bind]
          exact ⟨v, leftValue, w, rightValue, compared⟩
        · simp [Holds, denotes_iff, leftValue, rightValue]
      next => cases joined
  | allOf conditions ih =>
      simp only [validateConditionTypes] at valid
      have items := validate_all_types_iff.mp valid
      have decided := all_decided fun item member => ih item member (items item member)
      simpa only [Decided, Environment.condition, Holds] using decided
  | anyOf conditions ih =>
      simp only [validateConditionTypes] at valid
      have items := validate_all_types_iff.mp valid
      have decided := any_decided fun item member => ih item member (items item member)
      simpa only [Decided, Environment.condition, Holds] using decided
  | not condition ih =>
      simp only [validateConditionTypes] at valid
      obtain ⟨value, evaluated, meaning⟩ := ih valid
      refine ⟨!value, ?_, ?_⟩
      · simp [Environment.condition, evaluated, bind, Except.bind, pure, Except.pure]
      · rw [Holds, ← meaning]
        simp

theorem all_true_iff {conditions : List Condition} :
    env.all conditions = .ok true ↔ ∀ item ∈ conditions, env.condition item = .ok true := by
  induction conditions with
  | nil => simp [Environment.all, pure, Except.pure]
  | cons head tail ih =>
      rw [Environment.all, checked_bind, List.forall_mem_cons, ← ih]
      constructor
      · rintro ⟨value, evaluated, later⟩
        cases value with
        | false => cases later
        | true => exact ⟨evaluated, later⟩
      · intro both
        exact ⟨true, both⟩

theorem any_false_iff {conditions : List Condition} :
    env.any conditions = .ok false ↔ ∀ item ∈ conditions, env.condition item = .ok false := by
  induction conditions with
  | nil => simp [Environment.any, pure, Except.pure]
  | cons head tail ih =>
      rw [Environment.any, checked_bind, List.forall_mem_cons, ← ih]
      constructor
      · rintro ⟨value, evaluated, later⟩
        cases value with
        | false => exact ⟨evaluated, later⟩
        | true => cases later
      · intro both
        exact ⟨false, both⟩

theorem all_failed_ok {conditions : List Condition}
    (each : ∀ item ∈ conditions, ∃ failed, failedComparisons env item = .ok failed) :
    ∃ failed, allFailedComparisons env conditions = .ok failed := by
  induction conditions with
  | nil => exact ⟨[], rfl⟩
  | cons head tail ih =>
      obtain ⟨first, here⟩ := each head List.mem_cons_self
      obtain ⟨later, rest⟩ := ih fun item member => each item (.tail head member)
      exact ⟨first ++ later, by simp [allFailedComparisons, here, rest, bind, Except.bind,
        pure, Except.pure]⟩

theorem failed_comparisons_ok (typed : Typed stateSpecs inputSpecs env) (condition : Condition)
    (valid : validateConditionTypes stateSpecs inputSpecs condition = .ok ()) :
    ∃ failed, failedComparisons env condition = .ok failed := by
  induction condition using Condition.induction with
  | boolConstant value => exact ⟨[], by simp [failedComparisons, pure, Except.pure]⟩
  | comparison operator left right =>
      obtain ⟨value, evaluated, -⟩ := condition_decided typed _ valid
      exact ⟨_, by simp only [failedComparisons, evaluated, bind, Except.bind]; rfl⟩
  | allOf conditions ih =>
      simp only [validateConditionTypes] at valid
      have items := validate_all_types_iff.mp valid
      simp only [failedComparisons]
      exact all_failed_ok fun item member => ih item member (items item member)
  | anyOf conditions ih =>
      obtain ⟨value, evaluated, -⟩ := condition_decided typed _ valid
      simp only [validateConditionTypes] at valid
      have items := validate_all_types_iff.mp valid
      obtain ⟨failed, each⟩ := all_failed_ok fun item member => ih item member (items item member)
      simp only [failedComparisons, evaluated, bind, Except.bind]
      cases value with
      | false => exact ⟨failed, each⟩
      | true => exact ⟨[], rfl⟩
  | not condition ih => exact ⟨[], by simp [failedComparisons, pure, Except.pure]⟩

theorem repair_constraints_ok (host : Host) (typed : Typed stateSpecs inputSpecs env)
    (condition : Condition)
    (valid : validateConditionTypes stateSpecs inputSpecs condition = .ok ()) :
    ∃ repairs, repairConstraints host condition env = .ok repairs := by
  obtain ⟨failed, collected⟩ := failed_comparisons_ok typed condition valid
  exact ⟨_, by simp only [repairConstraints, collected, bind, Except.bind]; rfl⟩

end Conditions

section Transitions

variable {host : Host} {stateSpecs inputSpecs : List VariableSpec} {env : Environment}
  {transition : Transition}

theorem lookup_of_mem {entries : List (String × Scalar)} (unique : (entries.map Prod.fst).Nodup)
    {name : String} {value : Scalar} (listed : (name, value) ∈ entries) :
    entries.lookup name = some value := by
  induction entries with
  | nil => cases listed
  | cons head tail ih =>
      rw [List.map_cons, List.nodup_cons] at unique
      rcases List.mem_cons.mp listed with rfl | later
      · simp
      · have different : name ≠ head.1 := by
          rintro rfl
          exact unique.1 (List.mem_map.mpr ⟨_, later, rfl⟩)
        have skipped : (name == head.1) = false := by simpa using different
        rw [List.lookup_cons, skipped]
        exact ih unique.2 later

theorem lookup_none {entries : List (String × Scalar)} {name : String}
    (absent : name ∉ entries.map Prod.fst) : entries.lookup name = none := by
  rw [List.lookup_eq_none_iff]
  intro entry listed
  have different : name ≠ entry.1 := by
    rintro rfl
    exact absent (List.mem_map_of_mem listed)
  simpa using different

/-- Updating with unique keys: the updates first, then the record. -/
theorem Record.update_assigned (record : Record) {updates : List (String × Scalar)}
    (unique : (updates.map Prod.fst).Nodup) {name : String} {value : Scalar}
    (listed : (name, value) ∈ updates) : Record.update record updates name = some value := by
  have reversed : (updates.reverse.map Prod.fst).Nodup := by
    rw [List.map_reverse]
    exact List.nodup_reverse.mpr unique
  have found := lookup_of_mem reversed (List.mem_reverse.mpr listed)
  simp [Record.update, found]

theorem Record.update_kept (record : Record) {updates : List (String × Scalar)} {name : String}
    (absent : name ∉ updates.map Prod.fst) : Record.update record updates name = record name := by
  have missing : updates.reverse.lookup name = none :=
    lookup_none (by rwa [List.map_reverse, List.mem_reverse])
  simp [Record.update, missing]

structure Assignable (stateSpecs inputSpecs : List VariableSpec) (transition : Transition) :
    Prop where
  unique : (transition.assignments.map Assignment.target).Nodup
  typed : ∀ assignment ∈ transition.assignments, ∃ spec valueType,
    lookupSpec stateSpecs assignment.target = some spec ∧
    inferExpressionType stateSpecs inputSpecs assignment.value = .ok valueType ∧
    assignableType valueType spec.valueType = true

theorem validate_assignments_iff {assignments : List Assignment} :
    validateAssignments host stateSpecs inputSpecs assignments = .ok () ↔
      ∀ assignment ∈ assignments,
        validateAssignment host stateSpecs inputSpecs assignment = .ok () := by
  induction assignments with
  | nil => simp [validateAssignments, pure, Except.pure]
  | cons head tail ih => simp [validateAssignments, checked_then, ih]

theorem assignable_of_valid {transitionName : String}
    (targets : validateTargets host stateSpecs transitionName transition = .ok ())
    (assignments :
      validateAssignments host stateSpecs inputSpecs transition.assignments = .ok ()) :
    Assignable stateSpecs inputSpecs transition := by
  constructor
  · by_contra duplicate
    simp [validateTargets, duplicate] at targets
  · intro assignment listed
    have valid := validate_assignments_iff.mp assignments assignment listed
    simp only [validateAssignment, checked_bind] at valid
    obtain ⟨-, -, valueType, inferred, matching⟩ := valid
    split at matching
    next => cases matching
    next spec found =>
      split at matching
      next assignable => exact ⟨spec, valueType, found, inferred, assignable⟩
      next => cases matching

theorem assignable_matches {value : Scalar} {valueType targetType : ValueType}
    (matching : matchesType value valueType = true)
    (assignable : assignableType valueType targetType = true) :
    matchesType value targetType = true := by
  cases valueType <;> cases targetType <;> simp_all [assignableType]
  cases value <;> simp_all [matchesType]

theorem updates_ok {assignments : List Assignment}
    (evaluates : ∀ assignment ∈ assignments, ∃ value,
      env.expression assignment.value = .ok value) :
    ∃ updates, env.updates assignments = .ok updates ∧
      updates.map Prod.fst = assignments.map Assignment.target ∧
      ∀ assignment ∈ assignments, ∃ value, env.expression assignment.value = .ok value ∧
        (assignment.target, value) ∈ updates := by
  induction assignments with
  | nil => exact ⟨[], rfl, rfl, by simp⟩
  | cons head tail ih =>
      obtain ⟨value, here⟩ := evaluates head List.mem_cons_self
      obtain ⟨later, rest, targets, each⟩ := ih fun item member => evaluates item (.tail head member)
      refine ⟨(head.target, value) :: later, ?_, by simp [targets], ?_⟩
      · simp [Environment.updates, here, rest, bind, Except.bind, pure, Except.pure]
      · intro assignment listed
        rcases List.mem_cons.mp listed with rfl | other
        · exact ⟨value, here, List.mem_cons_self⟩
        · obtain ⟨found, evaluated, member⟩ := each assignment other
          exact ⟨found, evaluated, .tail _ member⟩

theorem Leads.unique {first second : Record} (one : Leads transition env first)
    (two : Leads transition env second) : first = second := by
  funext name
  by_cases assigned : name ∈ transition.assignments.map Assignment.target
  · obtain ⟨assignment, listed, rfl⟩ := List.mem_map.mp assigned
    obtain ⟨v, denotes, here⟩ := one.assigned assignment listed
    obtain ⟨w, other, there⟩ := two.assigned assignment listed
    rw [denotes_iff] at denotes other
    rw [denotes] at other
    cases other
    rw [here, there]
  · rw [one.kept name assigned, two.kept name assigned]

/-- An assignable transition runs, to a record that fits again. -/
theorem transition_typed (typed : Typed stateSpecs inputSpecs env)
    (names : (stateSpecs.map VariableSpec.name).Nodup)
    (assignable : Assignable stateSpecs inputSpecs transition) :
    ∃ after, env.transition transition = .ok after ∧ Leads transition env after ∧
      Fits after stateSpecs := by
  have evaluates : ∀ assignment ∈ transition.assignments, ∃ value,
      env.expression assignment.value = .ok value := by
    intro assignment listed
    obtain ⟨-, valueType, -, inferred, -⟩ := assignable.typed assignment listed
    obtain ⟨value, evaluated, -⟩ := expression_typed typed inferred
    exact ⟨value, evaluated⟩
  obtain ⟨updates, computed, targets, each⟩ := updates_ok evaluates
  have unique : (updates.map Prod.fst).Nodup := by
    rw [targets]
    exact assignable.unique
  refine ⟨Record.update env.state updates, ?_, ?_, ?_⟩
  · simp [Environment.transition, computed, bind, Except.bind, pure, Except.pure]
  · constructor
    · intro assignment listed
      obtain ⟨value, evaluated, member⟩ := each assignment listed
      exact ⟨value, (denotes_iff _ _ _).mpr evaluated, Record.update_assigned _ unique member⟩
    · intro name absent
      exact Record.update_kept _ (by rwa [targets])
  · intro spec listed
    by_cases assigned : spec.name ∈ transition.assignments.map Assignment.target
    · obtain ⟨assignment, member, target⟩ := List.mem_map.mp assigned
      obtain ⟨other, valueType, found, inferred, fitting⟩ := assignable.typed assignment member
      obtain ⟨value, evaluated, matching⟩ := expression_typed typed inferred
      obtain ⟨value', again, update⟩ := each assignment member
      rw [evaluated] at again
      cases again
      obtain ⟨otherListed, named⟩ := lookup_spec_some found
      have same : other = spec := List.inj_on_of_nodup_map names otherListed listed
        (named.trans target)
      rw [same] at fitting
      refine ⟨value, ?_, assignable_matches matching fitting⟩
      rw [← target]
      exact Record.update_assigned _ unique update
    · obtain ⟨value, bound, matching⟩ := typed.state spec listed
      refine ⟨value, ?_, matching⟩
      rw [Record.update_kept _ (by rwa [targets])]
      exact bound

theorem ensure_state_types_ok {after : Record} (fits : Fits after stateSpecs) :
    ensureStateTypes host after stateSpecs = .ok () := by
  induction stateSpecs with
  | nil => rfl
  | cons spec rest ih =>
      obtain ⟨value, bound, matching⟩ := fits spec List.mem_cons_self
      have later := ih fun other listed => fits other (.tail spec listed)
      simp [ensureStateTypes, bound, matching, later]

end Transitions

section Contracts

variable {host : Host} {contract : CompensationContract} {state inputs : Record}

structure Sound (contract : CompensationContract) : Prop where
  stateNames : (contract.stateVariables.map VariableSpec.name).Nodup
  inputNames : (contract.inputVariables.map VariableSpec.name).Nodup
  precondition : validateConditionTypes contract.stateVariables contract.inputVariables
    contract.precondition = .ok ()
  postcondition : validateConditionTypes contract.stateVariables contract.inputVariables
    contract.postcondition = .ok ()
  restoration : validateConditionTypes contract.stateVariables contract.inputVariables
    contract.restoration = .ok ()
  forward : Assignable contract.stateVariables contract.inputVariables contract.forward
  compensation : Assignable contract.stateVariables contract.inputVariables contract.compensation

theorem sound_of_valid (valid : validateContract host contract = .ok ()) : Sound contract := by
  simp only [validateContract, validateCondition, checked_then] at valid
  obtain ⟨shape, forward, compensation, ⟨-, precondition⟩, ⟨-, postcondition⟩, ⟨-, restoration⟩,
    forwardValues, compensationValues⟩ := valid
  have stateNames : (contract.stateVariables.map VariableSpec.name).Nodup := by
    by_contra repeated
    simp [validateShape, repeated] at shape
  have inputNames : (contract.inputVariables.map VariableSpec.name).Nodup := by
    by_contra repeated
    simp [validateShape, stateNames, repeated] at shape
  exact ⟨stateNames, inputNames, precondition, postcondition, restoration,
    assignable_of_valid forward forwardValues, assignable_of_valid compensation compensationValues⟩

theorem compensation_decided (host : Host) (sound : Sound contract) {after : Record}
    (original : Fits state contract.stateVariables) (given : Fits inputs contract.inputVariables)
    (moved : Fits after contract.stateVariables) :
    ∃ outcome, examineCompensation host contract state inputs after = .ok outcome ∧
      (outcome = none ↔ ∃ restored, Leads contract.compensation ⟨after, state, inputs⟩ restored ∧
        Holds ⟨restored, state, inputs⟩ contract.restoration) := by
  have before : Typed contract.stateVariables contract.inputVariables ⟨after, state, inputs⟩ :=
    ⟨moved, original, given⟩
  obtain ⟨restored, computed, leads, fits⟩ :=
    transition_typed before sound.stateNames sound.compensation
  have typed : Typed contract.stateVariables contract.inputVariables ⟨restored, state, inputs⟩ :=
    ⟨fits, original, given⟩
  obtain ⟨value, evaluated, meaning⟩ := condition_decided typed _ sound.restoration
  obtain ⟨repairs, collected⟩ := repair_constraints_ok host typed _ sound.restoration
  simp only [examineCompensation, computed, ensure_state_types_ok fits, evaluated, collected, bind,
    Except.bind, pure, Except.pure]
  cases value with
  | true => exact ⟨none, rfl, by simpa using ⟨restored, leads, meaning.mp rfl⟩⟩
  | false =>
      refine ⟨_, rfl, ?_⟩
      simp only [reduceCtorEq, false_iff]
      rintro ⟨other, elsewhere, holds⟩
      rw [← leads.unique elsewhere] at holds
      cases meaning.mpr holds

/-- On records that fit, examining a case decides whether it is reversed. -/
theorem examine_decides (host : Host) (sound : Sound contract)
    (original : Fits state contract.stateVariables)
    (given : Fits inputs contract.inputVariables) :
    ∃ outcome, examine host contract state inputs = .ok outcome ∧
      (outcome = none ↔ Reverses contract state inputs) := by
  have before : Typed contract.stateVariables contract.inputVariables ⟨state, state, inputs⟩ :=
    ⟨original, original, given⟩
  obtain ⟨after, computed, leads, fits⟩ :=
    transition_typed before sound.stateNames sound.forward
  have typed : Typed contract.stateVariables contract.inputVariables ⟨after, state, inputs⟩ :=
    ⟨fits, original, given⟩
  obtain ⟨value, evaluated, meaning⟩ := condition_decided typed _ sound.postcondition
  obtain ⟨repairs, collected⟩ := repair_constraints_ok host typed _ sound.postcondition
  obtain ⟨outcome, compensated, restores⟩ := compensation_decided host sound original given fits
  have only : ∀ other, Leads contract.forward ⟨state, state, inputs⟩ other → other = after :=
    fun other elsewhere => elsewhere.unique leads
  simp only [examine, computed, ensure_state_types_ok fits, evaluated, collected, bind,
    Except.bind, pure, Except.pure]
  cases value with
  | true =>
      refine ⟨outcome, compensated, restores.trans ?_⟩
      constructor
      · intro restored
        exact ⟨after, leads, meaning.mp rfl, restored⟩
      · rintro ⟨other, elsewhere, -, restored⟩
        rwa [only other elsewhere] at restored
  | false =>
      refine ⟨_, rfl, ?_⟩
      simp only [reduceCtorEq, false_iff]
      rintro ⟨other, elsewhere, holds, -⟩
      rw [only other elsewhere] at holds
      cases meaning.mpr holds

end Contracts

end SagaMind.Contracts
