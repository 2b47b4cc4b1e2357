import SagaMind.BoundedProof
import SagaMind.Contracts.Encoding

/-!
# What a certificate binds

A certificate names its contract by the hash of its dictionary, and a dictionary
does not tell `AllOf` from `AnyOf`. The dictionary binds one contract exactly
when the value of its conditions does not depend on their connectives.
-/

namespace SagaMind.Contracts

set_option autoImplicit false

section Steadiness

variable {env : Environment}

mutual

/-- The value of the condition does not depend on its connectives. -/
def Steady (env : Environment) : Condition → Prop
  | .boolConstant _ => True
  | .comparison _ _ _ => True
  | .allOf conditions => Unanimous env conditions
  | .anyOf conditions => Unanimous env conditions
  | .not condition => Steady env condition

/-- There is a first condition, and where it has a value the others have it too. -/
def Unanimous (env : Environment) : List Condition → Prop
  | [] => False
  | head :: tail => Steady env head ∧
      ∀ value, env.condition head = .ok value → Agree env value tail

def Agree (env : Environment) (value : Bool) : List Condition → Prop
  | [] => True
  | head :: tail => Steady env head ∧ env.condition head = .ok value ∧ Agree env value tail

end

theorem agree_iff {value : Bool} {conditions : List Condition} :
    Agree env value conditions ↔
      ∀ item ∈ conditions, Steady env item ∧ env.condition item = .ok value := by
  induction conditions with
  | nil => simp [Agree]
  | cons head tail ih => simp [Agree, ih, and_assoc]

/-- Both connectives give a value exactly where all the conditions have it. -/
theorem both_values_iff {head : Condition} {tail : List Condition} {value : Bool} :
    (env.all (head :: tail) = .ok value ∧ env.any (head :: tail) = .ok value) ↔
      ∀ item ∈ head :: tail, env.condition item = .ok value := by
  constructor
  · intro both
    cases value with
    | false => exact any_false_iff.mp both.2
    | true => exact all_true_iff.mp both.1
  · intro every
    have first := every head List.mem_cons_self
    cases value with
    | false =>
        refine ⟨?_, any_false_iff.mpr every⟩
        simp [Environment.all, first, bind, Except.bind, pure, Except.pure]
    | true =>
        refine ⟨all_true_iff.mpr every, ?_⟩
        simp [Environment.any, first, bind, Except.bind, pure, Except.pure]

/-- Where the connectives agree, the first condition has their value. -/
theorem first_decides {head : Condition} {tail : List Condition} {result : Checked Bool}
    (all : env.all (head :: tail) = result) (any : env.any (head :: tail) = result) :
    env.condition head = result := by
  rw [Environment.all] at all
  rw [Environment.any] at any
  cases evaluated : env.condition head with
  | error error =>
      rw [evaluated] at all
      exact all
  | ok value =>
      rw [evaluated] at all any
      cases value with
      | false => exact all
      | true => exact any

def Fixed (env : Environment) (condition : Condition) : Prop :=
  ∀ other : Condition, other.toValue = condition.toValue →
    env.condition other = env.condition condition

theorem mem_of_same_values {first second : List Condition}
    (same : first.map Condition.toValue = second.map Condition.toValue) {item : Condition}
    (listed : item ∈ first) : ∃ other ∈ second, item.toValue = other.toValue := by
  have image : item.toValue ∈ second.map Condition.toValue := by
    rw [← same]
    exact List.mem_map_of_mem listed
  obtain ⟨other, member, equal⟩ := List.mem_map.mp image
  exact ⟨other, member, equal.symm⟩

/-- A list of fixed conditions that agree has one value under both connectives. -/
theorem unanimous_value {head : Condition} {tail items : List Condition}
    (fixed : ∀ item ∈ head :: tail, Steady env item → Fixed env item)
    (unanimous : Unanimous env (head :: tail))
    (same : items.map Condition.toValue = (head :: tail).map Condition.toValue) :
    env.all items = env.condition head ∧ env.any items = env.condition head := by
  rw [Unanimous] at unanimous
  obtain ⟨steady, agree⟩ := unanimous
  cases items with
  | nil => cases same
  | cons first rest =>
      rw [List.map_cons, List.map_cons, List.cons.injEq] at same
      have firstValue : env.condition first = env.condition head :=
        fixed head List.mem_cons_self steady first same.1
      cases evaluated : env.condition head with
      | error error =>
          rw [evaluated] at firstValue
          simp [Environment.all, Environment.any, firstValue, bind, Except.bind]
      | ok value =>
          rw [evaluated] at firstValue
          have others := agree_iff.mp (agree value evaluated)
          apply both_values_iff.mpr
          rw [List.forall_mem_cons]
          refine ⟨firstValue, ?_⟩
          intro item listed
          obtain ⟨other, member, equal⟩ := mem_of_same_values same.2 listed
          rw [fixed other (.tail head member) (others other member).1 item equal]
          exact (others other member).2

/-- Where a list has one value however it is read, its conditions agree. -/
theorem unanimous_of_value {conditions : List Condition} {result : Checked Bool}
    (steady : ∀ item ∈ conditions, Fixed env item → Steady env item)
    (constant : ∀ items : List Condition,
      items.map Condition.toValue = conditions.map Condition.toValue →
        env.all items = result ∧ env.any items = result) :
    Unanimous env conditions := by
  cases conditions with
  | nil =>
      obtain ⟨all, any⟩ := constant [] rfl
      rw [← any] at all
      cases all
  | cons head tail =>
      have value_of_first : ∀ (first : Condition) (rest : List Condition),
          first.toValue = head.toValue →
          rest.map Condition.toValue = tail.map Condition.toValue →
          env.condition first = result := by
        intro first rest one two
        obtain ⟨all, any⟩ := constant (first :: rest) (by rw [List.map_cons, one, two]; rfl)
        exact first_decides all any
      have headValue := value_of_first head tail rfl rfl
      rw [Unanimous]
      constructor
      · apply steady head List.mem_cons_self
        intro other same
        rw [headValue]
        exact value_of_first other tail same rfl
      · intro value evaluated
        rw [evaluated] at headValue
        have every : ∀ rest : List Condition,
            rest.map Condition.toValue = tail.map Condition.toValue →
            ∀ item ∈ rest, env.condition item = .ok value := by
          intro rest same item listed
          have both := constant (head :: rest) (by rw [List.map_cons, same]; rfl)
          rw [← headValue] at both
          exact both_values_iff.mp both item (.tail head listed)
        rw [agree_iff]
        intro item listed
        have itemValue := every tail rfl item listed
        refine ⟨steady item (.tail head listed) ?_, itemValue⟩
        intro other same
        obtain ⟨before, after, split⟩ := List.append_of_mem listed
        rw [itemValue]
        apply every (before ++ other :: after)
        · rw [split, List.map_append, List.map_append, List.map_cons, List.map_cons, same]
        · simp

theorem listed_fixed_iff {condition : Condition} {conditions : List Condition}
    (listed : condition = .allOf conditions ∨ condition = .anyOf conditions) :
    Fixed env condition ↔ ∀ items : List Condition,
      items.map Condition.toValue = conditions.map Condition.toValue →
        env.all items = env.condition condition ∧ env.any items = env.condition condition := by
  have value : condition.toValue = (Condition.allOf conditions).toValue := by
    rcases listed with rfl | rfl
    · rfl
    · exact any_value_eq_all conditions
  constructor
  · intro fixed items same
    have all : (Condition.allOf items).toValue = condition.toValue := by
      rw [value, Condition.toValue, Condition.toValue, to_values_eq_map, to_values_eq_map, same]
    have any : (Condition.anyOf items).toValue = condition.toValue := by
      rw [any_value_eq_all, all]
    exact ⟨by simpa only [Environment.condition] using fixed _ all,
      by simpa only [Environment.condition] using fixed _ any⟩
  · intro constant other same
    obtain ⟨items, shape, equal⟩ := listed_of_value (same.trans value)
    rcases shape with rfl | rfl
    · simpa only [Environment.condition] using (constant items equal).1
    · simpa only [Environment.condition] using (constant items equal).2

theorem steady_listed {condition : Condition} {conditions : List Condition}
    (listed : condition = .allOf conditions ∨ condition = .anyOf conditions)
    (items : ∀ item ∈ conditions, Steady env item ↔ Fixed env item) :
    Unanimous env conditions ↔ Fixed env condition := by
  rw [listed_fixed_iff listed]
  constructor
  · intro unanimous
    cases conditions with
    | nil => exact absurd unanimous (by simp [Unanimous])
    | cons head tail =>
        have constant : ∀ others : List Condition,
            others.map Condition.toValue = (head :: tail).map Condition.toValue →
              env.all others = env.condition head ∧ env.any others = env.condition head :=
          fun others same => unanimous_value (fun item member => (items item member).mp) unanimous same
        have here : env.condition condition = env.condition head := by
          rcases listed with rfl | rfl
          · simpa only [Environment.condition] using (constant _ rfl).1
          · simpa only [Environment.condition] using (constant _ rfl).2
        rw [here]
        exact constant
  · intro constant
    exact unanimous_of_value (fun item member => (items item member).mpr) constant

theorem negation_injective {first second : Checked Bool}
    (same : (do let value ← first; pure !value) = (do let value ← second; pure !value)) :
    first = second := by
  cases first <;> cases second <;> simp_all [bind, Except.bind, pure, Except.pure]

/-- By induction on the condition: it is steady exactly when its dictionary fixes
its value. -/
theorem steady_iff_fixed (condition : Condition) : Steady env condition ↔ Fixed env condition := by
  induction condition using Condition.induction with
  | boolConstant value =>
      rw [Steady, true_iff]
      intro other same
      rw [constant_of_value same]
  | comparison operator left right =>
      rw [Steady, true_iff]
      intro other same
      rw [comparison_of_value same]
  | allOf conditions ih =>
      rw [Steady]
      exact steady_listed (.inl rfl) ih
  | anyOf conditions ih =>
      rw [Steady]
      exact steady_listed (.inr rfl) ih
  | not condition ih =>
      rw [Steady, ih]
      constructor
      · intro fixed other same
        obtain ⟨inner, rfl, equal⟩ := not_of_value same
        rw [Environment.condition, Environment.condition, fixed inner equal]
      · intro fixed other same
        have negated := fixed (.not other) (by rw [Condition.toValue, Condition.toValue, same])
        rw [Environment.condition, Environment.condition] at negated
        exact negation_injective negated

end Steadiness

section Meaning

/-- Two contracts say the same. -/
structure SameMeaning (first second : CompensationContract) : Prop where
  precondition : ∀ env : Environment,
    env.condition first.precondition = env.condition second.precondition
  postcondition : ∀ env : Environment,
    env.condition first.postcondition = env.condition second.postcondition
  restoration : ∀ env : Environment,
    env.condition first.restoration = env.condition second.restoration
  status : ∀ (verifier : BoundedContractVerifier) (host : Host),
    (verifier.verify host first).map VerificationCertificate.status =
      (verifier.verify host second).map VerificationCertificate.status

/-- By induction on the condition: a check that treats both connectives alike
does not tell conditions with one dictionary apart. -/
theorem connective_blind {check : Condition → Checked Unit}
    (checkAll : List Condition → Checked Unit)
    (allOf : ∀ conditions, check (.allOf conditions) = checkAll conditions)
    (anyOf : ∀ conditions, check (.anyOf conditions) = checkAll conditions)
    (not : ∀ condition, check (.not condition) = check condition)
    (cons : ∀ head tail, checkAll (head :: tail) = (do check head; checkAll tail))
    {first second : Condition} (same : first.toValue = second.toValue) :
    check first = check second := by
  have listed : ∀ conditions : List Condition,
      (∀ item ∈ conditions, ∀ other : Condition, other.toValue = item.toValue →
        check other = check item) →
      ∀ items : List Condition, items.map Condition.toValue = conditions.map Condition.toValue →
        checkAll items = checkAll conditions := by
    intro conditions each
    induction conditions with
    | nil =>
        intro items equal
        rw [List.map_eq_nil_iff.mp equal]
    | cons head tail ih =>
        intro items equal
        cases items with
        | nil => cases equal
        | cons item rest =>
            rw [List.map_cons, List.map_cons, List.cons.injEq] at equal
            rw [cons, cons, each head List.mem_cons_self item equal.1,
              ih (fun other member => each other (.tail head member)) rest equal.2]
  induction second using Condition.induction generalizing first with
  | boolConstant value => rw [constant_of_value same]
  | comparison operator left right => rw [comparison_of_value same]
  | allOf conditions ih =>
      obtain ⟨items, shape, equal⟩ := listed_of_value same
      have each := listed conditions (fun item member other => ih item member) items equal
      rcases shape with rfl | rfl
      · rw [allOf, allOf, each]
      · rw [anyOf, allOf, each]
  | anyOf conditions ih =>
      rw [any_value_eq_all] at same
      obtain ⟨items, shape, equal⟩ := listed_of_value same
      have each := listed conditions (fun item member other => ih item member) items equal
      rcases shape with rfl | rfl
      · rw [allOf, anyOf, each]
      · rw [anyOf, anyOf, each]
  | not condition ih =>
      obtain ⟨inner, rfl, equal⟩ := not_of_value same
      rw [not, not, ih equal]

variable {stateSpecs inputSpecs : List VariableSpec} {first second : Condition}

theorem validate_condition_same (same : first.toValue = second.toValue) :
    validateCondition stateSpecs inputSpecs first =
      validateCondition stateSpecs inputSpecs second := by
  have refs : validateRefs stateSpecs inputSpecs first =
      validateRefs stateSpecs inputSpecs second := by
    apply connective_blind (validateAllRefs stateSpecs inputSpecs) _ _ _ _ same
    all_goals
      intros
      simp only [validateRefs, validateAllRefs]
  have types : validateConditionTypes stateSpecs inputSpecs first =
      validateConditionTypes stateSpecs inputSpecs second := by
    apply connective_blind (validateAllTypes stateSpecs inputSpecs) _ _ _ _ same
    all_goals
      intros
      simp only [validateConditionTypes, validateAllTypes]
  rw [validateCondition, validateCondition, refs, types]

theorem holds_congr {env : Environment} (typed : Typed stateSpecs inputSpecs env)
    (firstValid : validateConditionTypes stateSpecs inputSpecs first = .ok ())
    (secondValid : validateConditionTypes stateSpecs inputSpecs second = .ok ())
    (alike : env.condition first = env.condition second) : Holds env first ↔ Holds env second := by
  obtain ⟨value, evaluated, meaning⟩ := condition_decided typed first firstValid
  obtain ⟨other, again, same⟩ := condition_decided typed second secondValid
  rw [alike, again] at evaluated
  cases evaluated
  rw [← meaning, ← same]

end Meaning

section Status

variable {contract : CompensationContract} {precondition postcondition restoration : Condition}

def CompensationContract.withConditions (contract : CompensationContract)
    (precondition postcondition restoration : Condition) : CompensationContract :=
  { contract with precondition, postcondition, restoration }

structure SameValues (contract : CompensationContract)
    (precondition postcondition restoration : Condition) : Prop where
  precondition : precondition.toValue = contract.precondition.toValue
  postcondition : postcondition.toValue = contract.postcondition.toValue
  restoration : restoration.toValue = contract.restoration.toValue

structure Alike (contract : CompensationContract)
    (precondition postcondition restoration : Condition) : Prop where
  precondition : ∀ env : Environment,
    env.condition precondition = env.condition contract.precondition
  postcondition : ∀ env : Environment,
    env.condition postcondition = env.condition contract.postcondition
  restoration : ∀ env : Environment,
    env.condition restoration = env.condition contract.restoration

theorem validate_contract_same (host : Host)
    (values : SameValues contract precondition postcondition restoration) :
    validateContract host (contract.withConditions precondition postcondition restoration) =
      validateContract host contract := by
  simp only [validateContract, CompensationContract.withConditions,
    validate_condition_same values.precondition, validate_condition_same values.postcondition,
    validate_condition_same values.restoration]
  rfl

theorem admits_congr {state inputs : Record}
    (sound : Sound contract)
    (other : Sound (contract.withConditions precondition postcondition restoration))
    (alike : Alike contract precondition postcondition restoration)
    (original : Fits state contract.stateVariables)
    (given : Fits inputs contract.inputVariables) :
    Admits (contract.withConditions precondition postcondition restoration) state inputs ↔
      Admits contract state inputs :=
  holds_congr ⟨original, original, given⟩ other.precondition sound.precondition
    (alike.precondition _)

theorem reverses_congr {state inputs : Record}
    (sound : Sound contract)
    (other : Sound (contract.withConditions precondition postcondition restoration))
    (alike : Alike contract precondition postcondition restoration)
    (original : Fits state contract.stateVariables)
    (given : Fits inputs contract.inputVariables) :
    Reverses (contract.withConditions precondition postcondition restoration) state inputs ↔
      Reverses contract state inputs := by
  have start : Typed contract.stateVariables contract.inputVariables ⟨state, state, inputs⟩ :=
    ⟨original, original, given⟩
  obtain ⟨after, -, leads, moved⟩ := transition_typed start sound.stateNames sound.forward
  have middle : Typed contract.stateVariables contract.inputVariables ⟨after, state, inputs⟩ :=
    ⟨moved, original, given⟩
  obtain ⟨restored, -, returns, back⟩ :=
    transition_typed middle sound.stateNames sound.compensation
  have finish : Typed contract.stateVariables contract.inputVariables
      ⟨restored, state, inputs⟩ := ⟨back, original, given⟩
  have post := holds_congr middle other.postcondition sound.postcondition
    (alike.postcondition _)
  have restores := holds_congr finish other.restoration sound.restoration (alike.restoration _)
  constructor
  · rintro ⟨there, forward, holds, home, compensation, restored⟩
    cases forward.unique leads
    cases compensation.unique returns
    exact ⟨_, leads, post.mp holds, _, returns, restores.mp restored⟩
  · rintro ⟨there, forward, holds, home, compensation, restored⟩
    cases forward.unique leads
    cases compensation.unique returns
    exact ⟨_, leads, post.mpr holds, _, returns, restores.mpr restored⟩

theorem deserved_congr {maxCases : Nat} {host : Host}
    (prepared : Prepared host maxCases contract)
    (other : Prepared host maxCases (contract.withConditions precondition postcondition restoration))
    (alike : Alike contract precondition postcondition restoration) :
    deserved (contract.withConditions precondition postcondition restoration) =
      deserved contract := by
  have sound := sound_of_valid prepared.valid
  have soundOther := sound_of_valid other.valid
  have fits : ∀ point : Case contract, Fits point.state contract.stateVariables ∧
      Fits point.inputs contract.inputVariables := case_fits sound prepared.finite
  have admits : ∀ point : Case contract,
      Admits (contract.withConditions precondition postcondition restoration) point.state
        point.inputs ↔ Admits contract point.state point.inputs := fun point =>
    admits_congr sound soundOther alike (fits point).1 (fits point).2
  have reverses : ∀ point : Case contract,
      Reverses (contract.withConditions precondition postcondition restoration) point.state
        point.inputs ↔ Reverses contract point.state point.inputs := fun point =>
    reverses_congr sound soundOther alike (fits point).1 (fits point).2
  have violated : (∃ point : Case (contract.withConditions precondition postcondition restoration),
      point.Admissible ∧ ¬Reverses
        (contract.withConditions precondition postcondition restoration) point.state
        point.inputs) ↔ ∃ point : Case contract, point.Admissible ∧
          ¬Reverses contract point.state point.inputs :=
    exists_congr fun point => and_congr (admits point) (not_congr (reverses point))
  have satisfiable : (∃ point : Case
      (contract.withConditions precondition postcondition restoration), point.Admissible) ↔
      ∃ point : Case contract, point.Admissible := exists_congr admits
  by_cases violation : ∃ point : Case contract, point.Admissible ∧
      ¬Reverses contract point.state point.inputs
  · rw [deserved, deserved, if_pos violation, if_pos (violated.mpr violation)]
  · rw [deserved, deserved, if_neg violation, if_neg (violated.not.mpr violation)]
    by_cases admissible : ∃ point : Case contract, point.Admissible
    · rw [if_pos admissible, if_pos (satisfiable.mpr admissible)]
    · rw [if_neg admissible, if_neg (satisfiable.not.mpr admissible)]

theorem status_congr (verifier : BoundedContractVerifier) (host : Host)
    (values : SameValues contract precondition postcondition restoration)
    (alike : Alike contract precondition postcondition restoration) :
    (verifier.verify host (contract.withConditions precondition postcondition restoration)).map
        VerificationCertificate.status =
      (verifier.verify host contract).map VerificationCertificate.status := by
  have valid := validate_contract_same host values
  by_cases prepared : Prepared host verifier.maxCases contract
  · have other : Prepared host verifier.maxCases
        (contract.withConditions precondition postcondition restoration) :=
      ⟨valid.trans prepared.valid, prepared.finite⟩
    have count : Nat.card (Case (contract.withConditions precondition postcondition restoration)) =
        Nat.card (Case contract) := rfl
    rw [verify_prepared prepared, verify_prepared other, count]
    split
    next => rfl
    next =>
      obtain ⟨certificate, concluded, status, -⟩ := conclude_all_cases prepared
      obtain ⟨another, again, same, -⟩ := conclude_all_cases other
      rw [concluded, again, Except.map, Except.map, status, same,
        deserved_congr prepared other alike]
  · have preparations : verifier.prepare host
        (contract.withConditions precondition postcondition restoration) =
        verifier.prepare host contract := by
      rw [BoundedContractVerifier.prepare, BoundedContractVerifier.prepare, valid]
      rfl
    rw [BoundedContractVerifier.verify, BoundedContractVerifier.verify, preparations]
    cases failed : verifier.prepare host contract with
    | ok found => exact absurd (prepare_ok_iff.mp failed).2 prepared
    | error error => cases error <;> rfl

theorem same_meaning_of_alike
    (values : SameValues contract precondition postcondition restoration)
    (alike : Alike contract precondition postcondition restoration) :
    SameMeaning (contract.withConditions precondition postcondition restoration) contract where
  precondition := alike.precondition
  postcondition := alike.postcondition
  restoration := alike.restoration
  status := fun verifier host => status_congr verifier host values alike

theorem to_dict_same (values : SameValues contract precondition postcondition restoration) :
    (contract.withConditions precondition postcondition restoration).toDict = contract.toDict := by
  simp only [CompensationContract.toDict, CompensationContract.withConditions,
    values.precondition, values.postcondition, values.restoration]

end Status

/-- The dictionary of a contract binds what the contract means exactly when all
three conditions are steady in every environment. -/
theorem certificate_binds_iff (contract : CompensationContract) :
    (∀ other : CompensationContract, other.toDict = contract.toDict →
      SameMeaning other contract) ↔
    ∀ env : Environment, Steady env contract.precondition ∧ Steady env contract.postcondition ∧
      Steady env contract.restoration := by
  simp only [steady_iff_fixed]
  constructor
  · intro binds env
    refine ⟨?_, ?_, ?_⟩
    · intro other same
      have values : SameValues contract other contract.postcondition contract.restoration :=
        ⟨same, rfl, rfl⟩
      exact (binds _ (to_dict_same values)).precondition env
    · intro other same
      have values : SameValues contract contract.precondition other contract.restoration :=
        ⟨rfl, same, rfl⟩
      exact (binds _ (to_dict_same values)).postcondition env
    · intro other same
      have values : SameValues contract contract.precondition contract.postcondition other :=
        ⟨rfl, rfl, same⟩
      exact (binds _ (to_dict_same values)).restoration env
  · intro fixed other same
    obtain ⟨precondition, postcondition, restoration, first, second, third, rfl⟩ :=
      same_dictionary same
    apply same_meaning_of_alike ⟨first, second, third⟩
    exact ⟨fun env => (fixed env).1 _ first, fun env => (fixed env).2.1 _ second,
      fun env => (fixed env).2.2 _ third⟩

section Counterexample

def boundedWithdrawal (connective : List Condition → Condition) : CompensationContract :=
  { withdrawalContract with
    postcondition := connective [
      .comparison .ge (.ref "balance" .state) (.literal (.int 0)),
      .comparison .gt (.ref "balance" .state) (.literal (.int 3))] }

/-- One dictionary, and so one hash, for a contract that is proved and a contract
that is rejected. -/
theorem one_hash_two_contracts :
    ¬∀ first second : CompensationContract, first.toDict = second.toDict →
      SameMeaning first second := by
  intro binds
  have same : (boundedWithdrawal .allOf).toDict = (boundedWithdrawal .anyOf).toDict := by
    simp only [boundedWithdrawal, CompensationContract.toDict, any_value_eq_all]
  have status := (binds _ _ same).status boundedContractVerifier ⟨fun _ => "", fun _ => "", fun _ => ""⟩
  have strict : (boundedContractVerifier.verify ⟨fun _ => "", fun _ => "", fun _ => ""⟩
      (boundedWithdrawal .allOf)).map VerificationCertificate.status = .ok .rejected := by rfl
  have loose : (boundedContractVerifier.verify ⟨fun _ => "", fun _ => "", fun _ => ""⟩
      (boundedWithdrawal .anyOf)).map VerificationCertificate.status = .ok .proved := by rfl
  rw [strict, loose] at status
  cases status

end Counterexample

end SagaMind.Contracts
