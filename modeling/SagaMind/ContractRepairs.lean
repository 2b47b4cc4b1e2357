import SagaMind.Contracts.Soundness

/-!
# What the repairs of a contract promise

The comparisons that `_failed_comparisons` collects are false where they were
collected, and making them true mends the condition as long as no comparison
that was true is lost. A negation contributes nothing, so the second half is
about conditions without one.
-/

namespace SagaMind.Contracts

set_option autoImplicit false

def Failed.condition (comparison : Failed) : Condition :=
  .comparison comparison.1 comparison.2.1 comparison.2.2

mutual

def Condition.comparisons : Condition → List Failed
  | .boolConstant _ => []
  | .comparison operator left right => [(operator, left, right)]
  | .allOf conditions => Condition.listed conditions
  | .anyOf conditions => Condition.listed conditions
  | .not condition => condition.comparisons

def Condition.listed : List Condition → List Failed
  | [] => []
  | head :: tail => head.comparisons ++ Condition.listed tail

end

/-- Built only from comparisons, `AllOf` and non-empty `AnyOf`. -/
inductive Positive : Condition → Prop
  | comparison (operator left right) : Positive (.comparison operator left right)
  | allOf {conditions} (each : ∀ item ∈ conditions, Positive item) : Positive (.allOf conditions)
  | anyOf {conditions} (choice : conditions ≠ []) (each : ∀ item ∈ conditions, Positive item) :
      Positive (.anyOf conditions)

/-- Every comparison of the condition has a truth value in the environment. -/
def Settles (env : Environment) (condition : Condition) : Prop :=
  ∀ comparison ∈ condition.comparisons, ∃ value, env.condition comparison.condition = .ok value

section Lists

variable {env : Environment} {conditions : List Condition}

theorem mem_listed {comparison : Failed} :
    comparison ∈ Condition.listed conditions ↔ ∃ item ∈ conditions, comparison ∈ item.comparisons := by
  induction conditions with
  | nil => simp [Condition.listed]
  | cons head tail ih => simp [Condition.listed, ih]

theorem all_false (decided : env.all conditions = .ok false) :
    ∃ item ∈ conditions, env.condition item = .ok false := by
  induction conditions with
  | nil => cases decided
  | cons head tail ih =>
      rw [Environment.all, checked_bind] at decided
      obtain ⟨value, evaluated, later⟩ := decided
      cases value with
      | true =>
          obtain ⟨item, member, failing⟩ := ih later
          exact ⟨item, List.mem_cons_of_mem head member, failing⟩
      | false => exact ⟨head, List.mem_cons_self, evaluated⟩

theorem any_true (decided : env.any conditions = .ok true) :
    ∃ item ∈ conditions, env.condition item = .ok true := by
  induction conditions with
  | nil => cases decided
  | cons head tail ih =>
      rw [Environment.any, checked_bind] at decided
      obtain ⟨value, evaluated, later⟩ := decided
      cases value with
      | true => exact ⟨head, List.mem_cons_self, evaluated⟩
      | false =>
          obtain ⟨item, member, passing⟩ := ih later
          exact ⟨item, List.mem_cons_of_mem head member, passing⟩

theorem all_evaluates (evaluates : ∀ item ∈ conditions, ∃ value, env.condition item = .ok value) :
    ∃ value, env.all conditions = .ok value := by
  induction conditions with
  | nil => exact ⟨true, rfl⟩
  | cons head tail ih =>
      rw [List.forall_mem_cons] at evaluates
      obtain ⟨⟨value, evaluated⟩, rest⟩ := evaluates
      rw [Environment.all, evaluated]
      cases value with
      | true => exact ih rest
      | false => exact ⟨false, rfl⟩

theorem any_evaluates (evaluates : ∀ item ∈ conditions, ∃ value, env.condition item = .ok value) :
    ∃ value, env.any conditions = .ok value := by
  induction conditions with
  | nil => exact ⟨false, rfl⟩
  | cons head tail ih =>
      rw [List.forall_mem_cons] at evaluates
      obtain ⟨⟨value, evaluated⟩, rest⟩ := evaluates
      rw [Environment.any, evaluated]
      cases value with
      | true => exact ⟨true, rfl⟩
      | false => exact ih rest

/-- Nothing before a true item raises where every item evaluates. -/
theorem any_of_true (evaluates : ∀ item ∈ conditions, ∃ value, env.condition item = .ok value)
    {item : Condition} (member : item ∈ conditions) (passing : env.condition item = .ok true) :
    env.any conditions = .ok true := by
  obtain ⟨value, decided⟩ := any_evaluates evaluates
  cases value with
  | true => exact decided
  | false =>
      rw [any_false_iff.mp decided item member] at passing
      cases passing

theorem all_failed_items {failed : List Failed}
    (collected : allFailedComparisons env conditions = .ok failed) :
    (∀ item ∈ conditions, ∃ own, failedComparisons env item = .ok own ∧ own ⊆ failed) ∧
      ∀ comparison ∈ failed, ∃ item ∈ conditions, ∃ own,
        failedComparisons env item = .ok own ∧ comparison ∈ own := by
  induction conditions generalizing failed with
  | nil =>
      cases collected
      exact ⟨nofun, nofun⟩
  | cons head tail ih =>
      rw [allFailedComparisons, checked_bind] at collected
      obtain ⟨first, here, next⟩ := collected
      rw [checked_bind] at next
      obtain ⟨later, rest, joined⟩ := next
      cases joined
      obtain ⟨each, sources⟩ := ih rest
      constructor
      · rw [List.forall_mem_cons]
        refine ⟨⟨first, here, List.subset_append_left first later⟩, ?_⟩
        intro item member
        obtain ⟨own, returned, within⟩ := each item member
        exact ⟨own, returned, List.Subset.trans within (List.subset_append_right first later)⟩
      · intro comparison member
        rcases List.mem_append.mp member with early | late
        · exact ⟨head, List.mem_cons_self, first, here, early⟩
        · obtain ⟨item, listed, own, returned, inside⟩ := sources comparison late
          exact ⟨item, List.mem_cons_of_mem head listed, own, returned, inside⟩

end Lists

section Collected

variable {env : Environment}

theorem comparison_failed {operator : ComparisonOperator} {left right : Expression}
    {failed : List Failed}
    (collected : failedComparisons env (.comparison operator left right) = .ok failed) :
    ∃ value, env.condition (.comparison operator left right) = .ok value ∧
      failed = if value then [] else [(operator, left, right)] := by
  rw [failedComparisons, checked_bind] at collected
  obtain ⟨value, evaluated, returned⟩ := collected
  cases returned
  exact ⟨value, evaluated, rfl⟩

theorem choice_failed {conditions : List Condition} {failed : List Failed}
    (collected : failedComparisons env (.anyOf conditions) = .ok failed) :
    env.any conditions = .ok true ∧ failed = [] ∨
      env.any conditions = .ok false ∧ allFailedComparisons env conditions = .ok failed := by
  rw [failedComparisons, checked_bind] at collected
  obtain ⟨value, evaluated, returned⟩ := collected
  rw [Environment.condition] at evaluated
  cases value with
  | true =>
      cases returned
      exact .inl ⟨evaluated, rfl⟩
  | false => exact .inr ⟨evaluated, returned⟩

/-- By induction on the condition: what is collected is one of its comparisons,
and false. -/
theorem collected_false (condition : Condition) {failed : List Failed}
    (collected : failedComparisons env condition = .ok failed) :
    ∀ comparison ∈ failed, comparison ∈ condition.comparisons ∧
      env.condition comparison.condition = .ok false := by
  have among {conditions : List Condition} {failed : List Failed}
      (ih : ∀ item ∈ conditions, ∀ {own}, failedComparisons env item = .ok own →
        ∀ comparison ∈ own, comparison ∈ item.comparisons ∧
          env.condition comparison.condition = .ok false)
      (collected : allFailedComparisons env conditions = .ok failed) :
      ∀ comparison ∈ failed, comparison ∈ Condition.listed conditions ∧
        env.condition comparison.condition = .ok false := by
    intro comparison member
    obtain ⟨item, listed, own, returned, inside⟩ := (all_failed_items collected).2 comparison member
    obtain ⟨written, failing⟩ := ih item listed returned comparison inside
    exact ⟨mem_listed.mpr ⟨item, listed, written⟩, failing⟩
  induction condition using Condition.induction generalizing failed with
  | boolConstant value =>
      cases collected
      exact nofun
  | comparison operator left right =>
      obtain ⟨value, evaluated, rfl⟩ := comparison_failed collected
      cases value with
      | true => exact nofun
      | false =>
          intro comparison member
          rw [List.mem_singleton.mp member]
          exact ⟨List.mem_singleton_self _, evaluated⟩
  | allOf conditions ih =>
      rw [failedComparisons] at collected
      rw [Condition.comparisons]
      exact among ih collected
  | anyOf conditions ih =>
      rw [Condition.comparisons]
      rcases choice_failed collected with ⟨-, rfl⟩ | ⟨-, returned⟩
      · exact nofun
      · exact among ih returned
  | not condition ih =>
      cases collected
      exact nofun

end Collected

section Settled

variable {env later : Environment}

theorem settles_items {conditions : List Condition}
    (settled : ∀ comparison ∈ Condition.listed conditions,
      ∃ value, env.condition comparison.condition = .ok value) :
    ∀ item ∈ conditions, Settles env item :=
  fun item member comparison written => settled comparison (mem_listed.mpr ⟨item, member, written⟩)

/-- By induction on the condition: it evaluates where its comparisons do. -/
theorem settled_evaluates (condition : Condition) (settled : Settles env condition) :
    ∃ value, env.condition condition = .ok value := by
  induction condition using Condition.induction with
  | boolConstant value => exact ⟨value, rfl⟩
  | comparison operator left right => exact settled _ (List.mem_singleton_self _)
  | allOf conditions ih =>
      rw [Settles, Condition.comparisons] at settled
      rw [Environment.condition]
      exact all_evaluates fun item member => ih item member (settles_items settled item member)
  | anyOf conditions ih =>
      rw [Settles, Condition.comparisons] at settled
      rw [Environment.condition]
      exact any_evaluates fun item member => ih item member (settles_items settled item member)
  | not condition ih =>
      rw [Settles, Condition.comparisons] at settled
      obtain ⟨value, evaluated⟩ := ih settled
      refine ⟨!value, ?_⟩
      rw [Environment.condition, evaluated]
      rfl

theorem settled_collects (condition : Condition) (settled : Settles env condition) :
    ∃ failed, failedComparisons env condition = .ok failed := by
  induction condition using Condition.induction with
  | boolConstant value => exact ⟨[], rfl⟩
  | comparison operator left right =>
      obtain ⟨value, evaluated⟩ := settled _ (List.mem_singleton_self _)
      rw [Failed.condition] at evaluated
      rw [failedComparisons, evaluated]
      exact ⟨_, rfl⟩
  | allOf conditions ih =>
      rw [Settles, Condition.comparisons] at settled
      rw [failedComparisons]
      exact all_failed_ok fun item member => ih item member (settles_items settled item member)
  | anyOf conditions ih =>
      obtain ⟨value, evaluated⟩ := settled_evaluates _ settled
      rw [Settles, Condition.comparisons] at settled
      rw [failedComparisons, evaluated]
      cases value with
      | true => exact ⟨[], rfl⟩
      | false =>
          exact all_failed_ok fun item member => ih item member (settles_items settled item member)
  | not condition ih => exact ⟨[], rfl⟩

/-- By induction on how the condition is built: a false one has a false
comparison that is collected. -/
theorem collected_nonempty {condition : Condition} (positive : Positive condition)
    {failed : List Failed} (failing : env.condition condition = .ok false)
    (collected : failedComparisons env condition = .ok failed) : failed ≠ [] := by
  induction positive generalizing failed with
  | comparison operator left right =>
      obtain ⟨value, evaluated, rfl⟩ := comparison_failed collected
      rw [failing] at evaluated
      cases evaluated
      exact List.cons_ne_nil _ _
  | allOf each ih =>
      rw [Environment.condition] at failing
      rw [failedComparisons] at collected
      obtain ⟨item, member, broken⟩ := all_false failing
      obtain ⟨own, returned, within⟩ := (all_failed_items collected).1 item member
      intro nothing
      rw [nothing] at within
      exact ih item member broken returned (List.subset_nil.mp within)
  | @anyOf conditions choice each ih =>
      rw [Environment.condition] at failing
      rcases choice_failed collected with ⟨holding, -⟩ | ⟨-, collected⟩
      · rw [failing] at holding
        cases holding
      · obtain ⟨item, member⟩ := List.exists_mem_of_ne_nil conditions choice
        obtain ⟨own, returned, within⟩ := (all_failed_items collected).1 item member
        intro nothing
        rw [nothing] at within
        exact ih item member (any_false_iff.mp failing item member) returned (List.subset_nil.mp within)

/-- What was true stays true. -/
def Keeps (env later : Environment) (condition : Condition) : Prop :=
  ∀ comparison ∈ condition.comparisons, env.condition comparison.condition = .ok true →
    later.condition comparison.condition = .ok true

theorem keeps_items {conditions : List Condition}
    (kept : ∀ comparison ∈ Condition.listed conditions,
      env.condition comparison.condition = .ok true →
        later.condition comparison.condition = .ok true) :
    ∀ item ∈ conditions, Keeps env later item :=
  fun item member comparison written => kept comparison (mem_listed.mpr ⟨item, member, written⟩)

/-- By induction on how the condition is built: without a negation it is
monotone in its comparisons. -/
theorem positive_kept {condition : Condition} (positive : Positive condition)
    (settled : Settles later condition) (kept : Keeps env later condition)
    (holding : env.condition condition = .ok true) : later.condition condition = .ok true := by
  induction positive with
  | comparison operator left right => exact kept _ (List.mem_singleton_self _) holding
  | allOf each ih =>
      rw [Settles, Condition.comparisons] at settled
      rw [Keeps, Condition.comparisons] at kept
      rw [Environment.condition, all_true_iff] at holding ⊢
      exact fun item member => ih item member (settles_items settled item member)
        (keeps_items kept item member) (holding item member)
  | anyOf choice each ih =>
      rw [Settles, Condition.comparisons] at settled
      rw [Keeps, Condition.comparisons] at kept
      rw [Environment.condition] at holding ⊢
      obtain ⟨item, member, passing⟩ := any_true holding
      apply any_of_true _ member
      · exact ih item member (settles_items settled item member) (keeps_items kept item member) passing
      · exact fun item member => settled_evaluates item (settles_items settled item member)

/-- By induction on how the condition is built: the collected comparisons mend
it, whatever its value was. -/
theorem positive_mended {condition : Condition} (positive : Positive condition)
    {failed : List Failed} (collected : failedComparisons env condition = .ok failed)
    (settled : Settles later condition) (kept : Keeps env later condition)
    (mended : ∀ comparison ∈ failed, later.condition comparison.condition = .ok true) :
    later.condition condition = .ok true := by
  induction positive generalizing failed with
  | comparison operator left right =>
      obtain ⟨value, evaluated, rfl⟩ := comparison_failed collected
      cases value with
      | true => exact kept _ (List.mem_singleton_self _) evaluated
      | false => exact mended _ (List.mem_singleton_self _)
  | allOf each ih =>
      rw [failedComparisons] at collected
      rw [Settles, Condition.comparisons] at settled
      rw [Keeps, Condition.comparisons] at kept
      rw [Environment.condition, all_true_iff]
      intro item member
      obtain ⟨own, returned, within⟩ := (all_failed_items collected).1 item member
      exact ih item member returned (settles_items settled item member)
        (keeps_items kept item member) fun comparison inside => mended comparison (within inside)
  | @anyOf conditions choice each ih =>
      rcases choice_failed collected with ⟨holding, -⟩ | ⟨-, collected⟩
      · exact positive_kept (.anyOf choice each) settled kept
          (by rw [Environment.condition, holding])
      · rw [Settles, Condition.comparisons] at settled
        rw [Keeps, Condition.comparisons] at kept
        rw [Environment.condition]
        obtain ⟨item, member⟩ := List.exists_mem_of_ne_nil conditions choice
        obtain ⟨own, returned, within⟩ := (all_failed_items collected).1 item member
        apply any_of_true _ member
        · exact ih item member returned (settles_items settled item member)
            (keeps_items kept item member) fun comparison inside => mended comparison (within inside)
        · exact fun item member => settled_evaluates item (settles_items settled item member)

end Settled

section Validated

variable {stateSpecs inputSpecs : List VariableSpec} {env : Environment}

/-- By induction on the condition: what the verifier has validated has no
comparison without a truth value. -/
theorem validated_settles (typed : Typed stateSpecs inputSpecs env) (condition : Condition)
    (valid : validateConditionTypes stateSpecs inputSpecs condition = .ok ()) :
    Settles env condition := by
  have among {conditions : List Condition}
      (ih : ∀ item ∈ conditions,
        validateConditionTypes stateSpecs inputSpecs item = .ok () → Settles env item)
      (valid : validateAllTypes stateSpecs inputSpecs conditions = .ok ()) :
      ∀ comparison ∈ Condition.listed conditions,
        ∃ value, env.condition comparison.condition = .ok value := by
    intro comparison member
    obtain ⟨item, listed, written⟩ := mem_listed.mp member
    exact ih item listed (validate_all_types_iff.mp valid item listed) comparison written
  induction condition using Condition.induction with
  | boolConstant value => exact nofun
  | comparison operator left right =>
      intro comparison member
      rw [List.mem_singleton.mp member]
      obtain ⟨value, evaluated, -⟩ := condition_decided typed _ valid
      exact ⟨value, evaluated⟩
  | allOf conditions ih => exact among ih valid
  | anyOf conditions ih => exact among ih valid
  | not condition ih => exact ih valid

end Validated

/-- Repairs are sound everywhere, and sufficient where nothing is negated. A
validated contract settles its comparisons in every record of its types. -/
theorem repairs_sound_and_sufficient (condition : Condition) :
    (∀ env failed, failedComparisons env condition = .ok failed →
      ∀ comparison ∈ failed, comparison ∈ condition.comparisons ∧
        env.condition comparison.condition = .ok false) ∧
    (∀ stateSpecs inputSpecs env, Typed stateSpecs inputSpecs env →
      validateConditionTypes stateSpecs inputSpecs condition = .ok () → Settles env condition) ∧
    (Positive condition → ∀ env, Settles env condition → env.condition condition = .ok false →
      ∃ failed, failedComparisons env condition = .ok failed ∧ failed ≠ [] ∧
        ∀ later, Settles later condition → Keeps env later condition →
          (∀ comparison ∈ failed, later.condition comparison.condition = .ok true) →
          later.condition condition = .ok true) := by
  refine ⟨fun env failed => collected_false condition,
    fun stateSpecs inputSpecs env typed => validated_settles typed condition, ?_⟩
  intro positive env settled failing
  obtain ⟨failed, collected⟩ := settled_collects condition settled
  refine ⟨failed, collected, collected_nonempty positive failing collected, ?_⟩
  intro later evaluates kept mended
  exact positive_mended positive collected evaluates kept mended

section Example

def integerSpec (name : String) (identifier : isIdentifier name = true) : VariableSpec where
  name := name
  valueType := .integer
  identifier := identifier
  together := rfl
  ordered := fun _ impossible => by cases impossible

def threeSpecs : List VariableSpec :=
  [integerSpec "x" rfl, integerSpec "y" rfl, integerSpec "z" rfl]

def threeIntegers (x y z : Int) : Environment :=
  let record : Record := fun name => [("x", .int x), ("y", .int y), ("z", .int z)].lookup name
  ⟨record, record, record⟩

theorem three_integers_typed (x y z : Int) : Typed threeSpecs threeSpecs (threeIntegers x y z) := by
  have fits : Fits (threeIntegers x y z).state threeSpecs := by
    intro spec member
    rcases List.mem_cons.mp member with rfl | member
    · exact ⟨.int x, rfl, rfl⟩
    · rcases List.mem_cons.mp member with rfl | member
      · exact ⟨.int y, rfl, rfl⟩
      · rw [List.mem_singleton.mp member]
        exact ⟨.int z, rfl, rfl⟩
  exact ⟨fits, fits, fits⟩

def equalsNumber (name : String) (number : Int) : Condition :=
  .comparison .eq (.ref name .state) (.literal (.int number))

/-- `x = 1`, and `y = 2` or `z = 3`. -/
def nestedChoice : Condition :=
  .allOf [equalsNumber "x" 1, .anyOf [equalsNumber "y" 2, equalsNumber "z" 3]]

/-- All three comparisons are false at zero, and mend the condition together. -/
theorem repairs_mend_nested_choice :
    (∃ failed, failedComparisons (threeIntegers 0 0 0) nestedChoice = .ok failed ∧
      failed.length = 3) ∧
    (threeIntegers 1 2 3).condition nestedChoice = .ok true := by
  obtain ⟨-, settles, sufficient⟩ := repairs_sound_and_sufficient nestedChoice
  have positive : Positive nestedChoice := by
    have basic (name : String) (number : Int) : Positive (equalsNumber name number) :=
      .comparison _ _ _
    refine .allOf (List.forall_mem_cons.mpr ⟨basic _ _, List.forall_mem_singleton.mpr ?_⟩)
    exact .anyOf (List.cons_ne_nil _ _) (List.forall_mem_cons.mpr
      ⟨basic _ _, List.forall_mem_singleton.mpr (basic _ _)⟩)
  obtain ⟨failed, collected, -, mends⟩ := sufficient positive (threeIntegers 0 0 0)
    (settles _ _ _ (three_integers_typed 0 0 0) (by rfl)) rfl
  cases collected
  refine ⟨⟨_, rfl, rfl⟩, ?_⟩
  have three : ∀ comparison ∈ nestedChoice.comparisons,
      (threeIntegers 1 2 3).condition comparison.condition = .ok true :=
    List.forall_mem_cons.mpr ⟨rfl, List.forall_mem_cons.mpr ⟨rfl, List.forall_mem_singleton.mpr rfl⟩⟩
  exact mends (threeIntegers 1 2 3) (settles _ _ _ (three_integers_typed 1 2 3) (by rfl))
    (fun comparison member _ => three comparison member) three

end Example

end SagaMind.Contracts
