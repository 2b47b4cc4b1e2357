import SagaMind.Contracts.Enumeration
import SagaMind.Contracts.Validation

/-!
# A bounded proof is a demonstration

The verifier returns a certificate for every contract, and it says `proved`
exactly when the contract is demonstrated.
-/

namespace SagaMind.Contracts

open Choices

set_option autoImplicit false

section Run

variable {host : Host} {contract : CompensationContract}

structure Settled (host : Host) (contract : CompensationContract) (pair : Record × Record) :
    Prop where
  precondition : Decided ⟨pair.1, pair.1, pair.2⟩ contract.precondition
  examined : ∃ outcome, examine host contract pair.1 pair.2 = .ok outcome ∧
    (outcome = none ↔ Reverses contract pair.1 pair.2)

open Classical in
noncomputable def admits (contract : CompensationContract) (pair : Record × Record) : Bool :=
  decide (Admits contract pair.1 pair.2)

/-- What one round of the loops does to the verdict of the remaining rounds. -/
theorem check_cases_cons {pair : Record × Record} (settled : Settled host contract pair)
    (rest : List (Record × Record)) (tally : Tally) :
    ((Admits contract pair.1 pair.2 → Reverses contract pair.1 pair.2) ∧
      checkCases host contract (pair :: rest) tally =
        checkCases host contract rest ⟨tally.casesChecked + 1,
          tally.admissibleCases + (admits contract pair).toNat⟩) ∨
    ((Admits contract pair.1 pair.2 ∧ ¬Reverses contract pair.1 pair.2) ∧
      ∃ rejection tally', checkCases host contract (pair :: rest) tally =
        (.rejected rejection, tally')) := by
  obtain ⟨admitted, evaluated, meaning⟩ := settled.precondition
  obtain ⟨outcome, examined, reverses⟩ := settled.examined
  have admitted_iff : admitted = true ↔ Admits contract pair.1 pair.2 := meaning
  rw [checkCases, evaluated]
  cases admitted with
  | false =>
      have refused : ¬Admits contract pair.1 pair.2 := fun holds => by
        cases admitted_iff.mpr holds
      left
      refine ⟨fun holds => absurd holds refused, ?_⟩
      simp [admits, refused]
  | true =>
      have holds := admitted_iff.mp rfl
      dsimp only
      rw [examined]
      cases outcome with
      | none =>
          left
          refine ⟨fun _ => reverses.mp rfl, ?_⟩
          simp [admits, holds]
      | some rejection =>
          right
          refine ⟨⟨holds, fun reversed => ?_⟩, rejection, _, rfl⟩
          cases reverses.mpr reversed

/-- By induction on the cases: without a violation the loops count every case. -/
theorem check_cases_finished {pairs : List (Record × Record)}
    (settled : ∀ pair ∈ pairs, Settled host contract pair)
    (reversed : ∀ pair ∈ pairs, Admits contract pair.1 pair.2 → Reverses contract pair.1 pair.2)
    (tally : Tally) :
    checkCases host contract pairs tally = (.finished, ⟨tally.casesChecked + pairs.length,
      tally.admissibleCases + pairs.countP (admits contract)⟩) := by
  induction pairs generalizing tally with
  | nil => rfl
  | cons pair rest ih =>
      rw [List.forall_mem_cons] at settled reversed
      rcases check_cases_cons settled.1 rest tally with ⟨-, next⟩ | ⟨⟨holds, broken⟩, -⟩
      · rw [next, ih settled.2 reversed.2, List.countP_cons, List.length_cons]
        cases admits contract pair <;> simp <;> omega
      · exact absurd (reversed.1 holds) broken

theorem check_cases_rejected {pairs : List (Record × Record)}
    (settled : ∀ pair ∈ pairs, Settled host contract pair)
    (violated : ∃ pair ∈ pairs, Admits contract pair.1 pair.2 ∧
      ¬Reverses contract pair.1 pair.2) (tally : Tally) :
    ∃ rejection tally', checkCases host contract pairs tally = (.rejected rejection, tally') := by
  induction pairs generalizing tally with
  | nil => simp at violated
  | cons pair rest ih =>
      rw [List.forall_mem_cons] at settled
      rcases check_cases_cons settled.1 rest tally with ⟨good, next⟩ | ⟨-, stopped⟩
      · rw [next]
        apply ih settled.2
        obtain ⟨other, listed, holds, broken⟩ := violated
        rcases List.mem_cons.mp listed with rfl | later
        · exact absurd (good holds) broken
        · exact ⟨other, later, holds, broken⟩
      · exact stopped

end Run

section Cases

variable {host : Host} {contract : CompensationContract}

theorem case_fits {maxCases : Nat} (sound : Sound contract)
    (finite : ∀ spec ∈ contract.stateVariables ++ contract.inputVariables,
      FiniteDomain maxCases spec) (point : Case contract) :
    Fits point.state contract.stateVariables ∧ Fits point.inputs contract.inputVariables := by
  rw [List.forall_mem_append] at finite
  exact ⟨choice_fits sound.stateNames (fun spec member => (finite.1 spec member).typed) point.1,
    choice_fits sound.inputNames (fun spec member => (finite.2 spec member).typed) point.2⟩

theorem case_settled (host : Host) {maxCases : Nat} (sound : Sound contract)
    (finite : ∀ spec ∈ contract.stateVariables ++ contract.inputVariables,
      FiniteDomain maxCases spec) :
    ∀ pair ∈ allCases contract, Settled host contract pair := by
  intro pair listed
  obtain ⟨point, rfl⟩ := ((all_cases_enumerate contract).mem_iff pair).mp listed
  obtain ⟨state, inputs⟩ := case_fits sound finite point
  have typed : Typed contract.stateVariables contract.inputVariables
      ⟨point.state, point.state, point.inputs⟩ := ⟨state, state, inputs⟩
  exact ⟨condition_decided typed _ sound.precondition, examine_decides host sound state inputs⟩

theorem all_cases_length (contract : CompensationContract) :
    (allCases contract).length = Nat.card (Case contract) :=
  (all_cases_enumerate contract).length_eq

theorem admissible_count (contract : CompensationContract) :
    (allCases contract).countP (admits contract) =
      Nat.card { point : Case contract // point.Admissible } := by
  rw [(all_cases_enumerate contract).count_eq (admits contract)]
  apply Nat.card_congr
  apply Equiv.subtypeEquivRight
  intro point
  simp [admits, Case.Admissible]

theorem admissible_pos_iff (contract : CompensationContract) :
    Nat.card { point : Case contract // point.Admissible } ≠ 0 ↔
      ∃ point : Case contract, point.Admissible := by
  rw [Nat.card_ne_zero, nonempty_subtype]
  exact ⟨fun both => both.1, fun some => ⟨some, Subtype.finite⟩⟩

end Cases

section Verification

variable {host : Host} {contract : CompensationContract} {verifier : BoundedContractVerifier}

/-- What the verifier has when it begins to count. -/
structure Prepared (host : Host) (maxCases : Nat) (contract : CompensationContract) : Prop where
  valid : validateContract host contract = .ok ()
  finite : ∀ spec ∈ contract.stateVariables ++ contract.inputVariables, FiniteDomain maxCases spec

theorem prepare_ok_iff {found : List (String × List Scalar) × List (String × List Scalar)} :
    verifier.prepare host contract = .ok found ↔
      found = (declaredDomains contract.stateVariables, declaredDomains contract.inputVariables) ∧
        Prepared host verifier.maxCases contract := by
  rw [BoundedContractVerifier.prepare, checked_then]
  simp only [checked_bind, domains_ok_iff, pure, Except.pure, Except.ok.injEq]
  constructor
  · rintro ⟨valid, states, ⟨rfl, first⟩, inputs, ⟨rfl, second⟩, rfl⟩
    refine ⟨rfl, valid, ?_⟩
    rw [List.forall_mem_append]
    exact ⟨first, second⟩
  · rintro ⟨rfl, valid, finite⟩
    rw [List.forall_mem_append] at finite
    exact ⟨valid, _, ⟨rfl, finite.1⟩, _, ⟨rfl, finite.2⟩, rfl⟩

/-- A verification that ends before it counts proves nothing and refutes nothing. -/
theorem unprepared_undecided (unprepared : ¬Prepared host verifier.maxCases contract) :
    ∃ certificate, verifier.verify host contract = .ok certificate ∧
      certificate.status ≠ .proved ∧ certificate.status ≠ .rejected := by
  have caught := prepare_caught verifier host contract
  rw [BoundedContractVerifier.verify]
  cases prepared : verifier.prepare host contract with
  | ok found => exact absurd (prepare_ok_iff.mp prepared).2 unprepared
  | error error =>
      cases error with
      | verification message => exact ⟨_, rfl, by simp [certificate]⟩
      | unsupported message => exact ⟨_, rfl, by simp [certificate]⟩
      | tooLarge message => exact ⟨_, rfl, by simp [certificate]⟩
      | typeError message => exact ⟨_, rfl, by simp [certificate]⟩
      | keyError name => exact absurd prepared (caught name)

theorem verify_prepared (prepared : Prepared host verifier.maxCases contract) :
    verifier.verify host contract =
      if Nat.card (Case contract) > verifier.maxCases then
        .ok (certificate host contract .unknown ("Proof space has " ++
          toString (Nat.card (Case contract)) ++ " cases, exceeding max_cases=" ++
          toString verifier.maxCases ++ "; rejected.") {} none)
      else conclude host contract (checkCases host contract (allCases contract) {}) := by
  have found := prepare_ok_iff.mpr ⟨rfl, prepared⟩
  rw [BoundedContractVerifier.verify, found]
  dsimp only
  rw [case_count]
  rfl

open Classical in
noncomputable def deserved (contract : CompensationContract) : ProofStatus :=
  if ∃ point : Case contract, point.Admissible ∧ ¬Reverses contract point.state point.inputs then
    .rejected
  else if ∃ point : Case contract, point.Admissible then .proved
  else .invalid

theorem deserved_proved_iff (contract : CompensationContract) :
    deserved contract = .proved ↔ (∃ point : Case contract, point.Admissible) ∧
      ∀ point : Case contract, point.Admissible →
        Reverses contract point.state point.inputs := by
  rw [deserved]
  split
  next violated =>
    obtain ⟨point, holds, broken⟩ := violated
    simp only [reduceCtorEq, false_iff, not_and]
    intro _ correct
    exact broken (correct point holds)
  next correct =>
    have reversed : ∀ point : Case contract, point.Admissible →
        Reverses contract point.state point.inputs := by
      intro point holds
      by_contra broken
      exact correct ⟨point, holds, broken⟩
    split
    next satisfiable => simpa using ⟨satisfiable, reversed⟩
    next unsatisfiable => simpa using fun point holds => absurd ⟨point, holds⟩ unsatisfiable

/-- The enumeration concludes what the cases call for. Unless it was cut short by
a violation, it counted all of them. -/
theorem conclude_all_cases (prepared : Prepared host verifier.maxCases contract) :
    ∃ certificate, conclude host contract (checkCases host contract (allCases contract) {}) =
        .ok certificate ∧ certificate.status = deserved contract ∧
      (certificate.status = .proved → certificate.casesChecked = Nat.card (Case contract) ∧
        certificate.admissibleCases = Nat.card { point : Case contract // point.Admissible }) := by
  have settled := case_settled host (sound_of_valid prepared.valid) prepared.finite
  rw [deserved]
  split
  next violated =>
    obtain ⟨point, holds, broken⟩ := violated
    have listed : (point.state, point.inputs) ∈ allCases contract :=
      ((all_cases_enumerate contract).mem_iff _).mpr ⟨point, rfl⟩
    obtain ⟨rejection, tally, stopped⟩ :=
      check_cases_rejected settled ⟨_, listed, holds, broken⟩ {}
    rw [stopped]
    exact ⟨_, rfl, rfl, by simp [certificate]⟩
  next correct =>
    have reversed : ∀ pair ∈ allCases contract, Admits contract pair.1 pair.2 →
        Reverses contract pair.1 pair.2 := by
      intro pair listed holds
      obtain ⟨point, rfl⟩ := ((all_cases_enumerate contract).mem_iff pair).mp listed
      by_contra broken
      exact correct ⟨point, holds, broken⟩
    rw [check_cases_finished settled reversed, conclude, all_cases_length, admissible_count]
    simp only [Nat.zero_add]
    by_cases satisfiable : ∃ point : Case contract, point.Admissible
    · rw [if_neg ((admissible_pos_iff contract).mpr satisfiable), if_pos satisfiable]
      exact ⟨_, rfl, rfl, fun _ => ⟨rfl, rfl⟩⟩
    · rw [if_pos (not_not.mp ((admissible_pos_iff contract).not.mpr satisfiable)),
        if_neg satisfiable]
      exact ⟨_, rfl, rfl, by simp [certificate]⟩

/-- The verifier answers for every contract. Its answer is `proved` exactly when
the contract is demonstrated, and then it counted all the cases. -/
theorem proved_iff_demonstrated (verifier : BoundedContractVerifier) (host : Host)
    (contract : CompensationContract) :
    ∃ certificate, verifier.verify host contract = .ok certificate ∧
      (certificate.status = .proved ↔ Demonstrated host verifier.maxCases contract) ∧
      (certificate.status = .proved → certificate.casesChecked = Nat.card (Case contract) ∧
        certificate.admissibleCases = Nat.card { point : Case contract // point.Admissible }) := by
  by_cases prepared : Prepared host verifier.maxCases contract
  · rw [verify_prepared prepared]
    split
    next large =>
      refine ⟨_, rfl, ?_, by simp [certificate]⟩
      simp only [certificate, reduceCtorEq, false_iff]
      intro demonstrated
      have small := demonstrated.size
      omega
    next small =>
      obtain ⟨certificate, concluded, status, counted⟩ := conclude_all_cases prepared
      refine ⟨certificate, concluded, ?_, counted⟩
      rw [status, deserved_proved_iff]
      constructor
      · rintro ⟨satisfiable, correct⟩
        exact ⟨prepared.valid, prepared.finite, by omega, satisfiable, correct⟩
      · intro demonstrated
        exact ⟨demonstrated.satisfiable, demonstrated.correct⟩
  · obtain ⟨certificate, answered, unproved, -⟩ := unprepared_undecided prepared
    refine ⟨certificate, answered, ?_, fun proved => absurd proved unproved⟩
    constructor
    · intro proved
      exact absurd proved unproved
    · intro demonstrated
      exact absurd ⟨demonstrated.valid, demonstrated.domains⟩ prepared

end Verification

section Sample

def balance : VariableSpec where
  name := "balance"
  valueType := .integer
  minimum := some 0
  maximum := some 3
  identifier := by decide
  together := rfl
  ordered := by simp

def amount : VariableSpec where
  name := "amount"
  valueType := .integer
  minimum := some 0
  maximum := some 2
  identifier := by decide
  together := rfl
  ordered := by simp

def withdrawalContract : CompensationContract where
  name := "bounded-withdrawal"
  version := "1.0.0"
  stateVariables := [balance]
  inputVariables := [amount]
  precondition := .allOf [
    .comparison .ge (.ref "amount" .input) (.literal (.int 0)),
    .comparison .le (.ref "amount" .input) (.ref "balance" .state)]
  forward := ⟨[⟨"balance", .binary .subtract (.ref "balance" .state) (.ref "amount" .input)⟩]⟩
  postcondition := .comparison .ge (.ref "balance" .state) (.literal (.int 0))
  compensation := ⟨[⟨"balance", .binary .add (.ref "balance" .state) (.ref "amount" .input)⟩]⟩
  restoration := .comparison .eq (.ref "balance" .state) (.ref "balance" .original)
  implementationIdentity := "tests.withdrawal:v1:forward+compensation"
  named := by decide

def boundedContractVerifier : BoundedContractVerifier where
  positive := by decide

example (host : Host) :
    (boundedContractVerifier.verify host withdrawalContract).map (fun certificate =>
      (certificate.status, certificate.casesChecked, certificate.admissibleCases)) =
      .ok (.proved, 12, 9) := by
  rfl

end Sample

end SagaMind.Contracts
