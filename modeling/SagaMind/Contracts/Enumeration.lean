import SagaMind.Contracts.Soundness

/-!
# The enumeration lists the cases

The domains that the verifier computes are the points of the variables, and its
two nested loops go through every case once.
-/

namespace SagaMind.Contracts

open Choices

set_option autoImplicit false

section Points

variable {host : Host} {spec : VariableSpec} {specs : List VariableSpec} {maxPoints : Nat}

theorem integer_range_length (least greatest : Int) :
    (integerRange least greatest).length = (greatest - least + 1).toNat := by
  rw [integerRange, List.length_map, List.length_range]

theorem declared_values_eq {values : List Scalar}
    (declared : declaredValues host spec maxPoints = .ok values) : values = spec.points := by
  rw [declaredValues] at declared
  rw [VariableSpec.points]
  by_cases listed : spec.allowedValues ≠ []
  · rw [if_pos listed] at declared ⊢
    cases declared
    rfl
  · rw [if_neg listed] at declared ⊢
    generalize spec.valueType = valueType at declared ⊢
    generalize spec.minimum = minimum at declared ⊢
    generalize spec.maximum = maximum at declared ⊢
    cases valueType with
    | boolean =>
        cases declared
        rfl
    | integer =>
        cases minimum with
        | none => cases declared
        | some least =>
            cases maximum with
            | none => cases declared
            | some greatest =>
                dsimp only at declared ⊢
                split at declared
                · cases declared
                · cases declared
                  rfl
    | _ => cases declared

theorem declared_values_ok (finite : FiniteDomain maxPoints spec) :
    declaredValues host spec maxPoints = .ok spec.points := by
  have nonempty := finite.nonempty
  have small := finite.small
  rw [VariableSpec.points] at nonempty small ⊢
  rw [declaredValues]
  by_cases listed : spec.allowedValues ≠ []
  · rw [if_pos listed, if_pos listed]
    rfl
  · rw [if_neg listed] at nonempty small
    rw [if_neg listed, if_neg listed]
    generalize spec.valueType = valueType at nonempty small ⊢
    generalize spec.minimum = minimum at nonempty small ⊢
    generalize spec.maximum = maximum at nonempty small ⊢
    cases valueType with
    | boolean => rfl
    | integer =>
        cases minimum with
        | none => exact absurd rfl nonempty
        | some least =>
            cases maximum with
            | none => exact absurd rfl nonempty
            | some greatest =>
                dsimp only at small ⊢
                rw [integer_range_length] at small
                rw [if_neg (by omega)]
                rfl
    | _ => exact absurd rfl nonempty

/-- The verifier accepts the finite domains, and computes their points. -/
theorem domain_ok_iff {values : List Scalar} :
    domain host spec maxPoints = .ok values ↔
      values = spec.points ∧ FiniteDomain maxPoints spec := by
  rw [domain, checked_bind]
  constructor
  · rintro ⟨declared, computed, accepted⟩
    have points := declared_values_eq computed
    split at accepted
    next => cases accepted
    next nonempty =>
      split at accepted
      next => cases accepted
      next small =>
        split at accepted
        next => cases accepted
        next typed =>
          cases accepted
          rw [List.find?_eq_none] at typed
          refine ⟨points, ?_⟩
          rw [points] at nonempty small typed
          exact ⟨nonempty, by simpa using typed, by omega⟩
  · rintro ⟨rfl, finite⟩
    refine ⟨spec.points, declared_values_ok finite, ?_⟩
    have typed : spec.points.find? (fun value => !matchesType value spec.valueType) = none := by
      rw [List.find?_eq_none]
      intro value listed
      simp [finite.typed value listed]
    have small := finite.small
    rw [if_neg finite.nonempty, if_neg (by omega), typed]
    rfl

def declaredDomains (specs : List VariableSpec) : List (String × List Scalar) :=
  specs.map fun spec => (spec.name, spec.points)

theorem domains_ok_iff {found : List (String × List Scalar)} :
    domains host maxPoints specs = .ok found ↔
      found = declaredDomains specs ∧ ∀ spec ∈ specs, FiniteDomain maxPoints spec := by
  induction specs generalizing found with
  | nil =>
      simp only [domains, declaredDomains, pure, Except.pure, Except.ok.injEq]
      simp [eq_comm]
  | cons spec rest ih =>
      simp only [domains, checked_bind, domain_ok_iff, ih, pure, Except.pure, Except.ok.injEq]
      constructor
      · rintro ⟨values, ⟨rfl, finite⟩, later, ⟨rfl, others⟩, rfl⟩
        exact ⟨rfl, by simpa using ⟨finite, others⟩⟩
      · rintro ⟨rfl, finite⟩
        rw [List.forall_mem_cons] at finite
        exact ⟨_, ⟨rfl, finite.1⟩, _, ⟨rfl, finite.2⟩, rfl⟩

theorem domain_size_declared (specs : List VariableSpec) :
    domainSize (declaredDomains specs) = Nat.card (Choice (specs.map VariableSpec.points)) := by
  rw [card_choice, domainSize, declaredDomains, List.map_map, List.map_map]
  rfl

theorem records_enumerate (specs : List VariableSpec) :
    Enumerates (fun choice : Choice (specs.map VariableSpec.points) =>
      record (specs.map VariableSpec.name) choice.values) (records (declaredDomains specs)) := by
  have names : (declaredDomains specs).map Prod.fst = specs.map VariableSpec.name := by
    rw [declaredDomains, List.map_map]
    rfl
  have points : (declaredDomains specs).map Prod.snd = specs.map VariableSpec.points := by
    rw [declaredDomains, List.map_map]
    rfl
  rw [records, names, points]
  exact (product_enumerates _).map (record (specs.map VariableSpec.name))

end Points

section Cases

variable {contract : CompensationContract}

instance (contract : CompensationContract) : Fintype (Case contract) :=
  inferInstanceAs (Fintype (Choice (contract.stateVariables.map VariableSpec.points) ×
    Choice (contract.inputVariables.map VariableSpec.points)))

def allCases (contract : CompensationContract) : List (Record × Record) :=
  cases (declaredDomains contract.stateVariables) (declaredDomains contract.inputVariables)

theorem all_cases_enumerate (contract : CompensationContract) :
    Enumerates (fun point : Case contract => (point.state, point.inputs)) (allCases contract) :=
  (records_enumerate contract.stateVariables).pairs (records_enumerate contract.inputVariables)
    Prod.mk

theorem case_count (contract : CompensationContract) :
    domainSize (declaredDomains contract.stateVariables) *
      domainSize (declaredDomains contract.inputVariables) = Nat.card (Case contract) := by
  rw [domain_size_declared, domain_size_declared]
  exact (Nat.card_prod _ _).symm

/-- By induction on the variables: chosen values have the types of their variables. -/
theorem choice_fits {specs : List VariableSpec} (unique : (specs.map VariableSpec.name).Nodup)
    (typed : ∀ spec ∈ specs, ∀ value ∈ spec.points, matchesType value spec.valueType = true)
    (choice : Choice (specs.map VariableSpec.points)) :
    Fits (record (specs.map VariableSpec.name) choice.values) specs := by
  induction specs with
  | nil => exact nofun
  | cons first rest ih =>
      obtain ⟨position, later⟩ := choice
      rw [List.map_cons, List.nodup_cons] at unique
      rw [List.forall_mem_cons] at typed
      intro spec listed
      rcases List.mem_cons.mp listed with rfl | other
      · refine ⟨spec.points.get position, ?_, typed.1 _ (List.get_mem _ _)⟩
        simp [record, Choice.values]
      · obtain ⟨value, bound, matching⟩ := ih unique.2 typed.2 later spec other
        refine ⟨value, ?_, matching⟩
        have different : spec.name ≠ first.name := by
          intro same
          rw [← same] at unique
          exact unique.1 (List.mem_map_of_mem other)
        have skipped : (spec.name == first.name) = false := by simpa using different
        simp only [record, Choice.values, List.map_cons, List.zip_cons_cons, List.lookup_cons,
          skipped]
        exact bound

end Cases

end SagaMind.Contracts
