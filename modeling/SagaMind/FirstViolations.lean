import SagaMind.BoundedProof

/-!
# A rejection is the first violation

The verifier rejects exactly the prepared contracts that some admissible case violates, and
what it reports is the first such case in the order of its loops, with the states that the
declared transitions produce from it.
-/

namespace SagaMind.Contracts

open Choices

set_option autoImplicit false

section Counterexamples

variable {host : Host} {contract : CompensationContract} {state inputs : Record}

/-- The counterexample tells what the declared transitions do to its records. -/
structure Genuine (contract : CompensationContract) (found : ContractCounterexample) : Prop where
  forward : Leads contract.forward ⟨found.originalState, found.originalState, found.inputs⟩
    found.afterForward
  violated : found.violatedProperty = "postcondition" ↔
    ¬Holds ⟨found.afterForward, found.originalState, found.inputs⟩ contract.postcondition
  postcondition : found.violatedProperty = "postcondition" → found.afterCompensation = none
  restoration : found.violatedProperty ≠ "postcondition" →
    found.violatedProperty = "restoration" ∧ ∃ restored,
      found.afterCompensation = some restored ∧
        Leads contract.compensation ⟨found.afterForward, found.originalState, found.inputs⟩
          restored ∧
        ¬Holds ⟨restored, found.originalState, found.inputs⟩ contract.restoration

/-- A rejected compensation leads to a record that does not restore. -/
theorem compensation_rejects (sound : Sound contract) {after : Record} {rejection : Rejection}
    (original : Fits state contract.stateVariables) (given : Fits inputs contract.inputVariables)
    (moved : Fits after contract.stateVariables)
    (examined : examineCompensation host contract state inputs after = .ok (some rejection)) :
    ∃ restored, Leads contract.compensation ⟨after, state, inputs⟩ restored ∧
      ¬Holds ⟨restored, state, inputs⟩ contract.restoration ∧
      rejection.counterexample = {
        violatedProperty := "restoration"
        originalState := state
        inputs
        afterForward := after
        afterCompensation := some restored } := by
  have before : Typed contract.stateVariables contract.inputVariables ⟨after, state, inputs⟩ :=
    ⟨moved, original, given⟩
  have compensation := transition_typed before sound.stateNames sound.compensation
  rcases compensation with ⟨restored, computed, leads, fits⟩
  have typed : Typed contract.stateVariables contract.inputVariables ⟨restored, state, inputs⟩ :=
    ⟨fits, original, given⟩
  have decided := condition_decided typed contract.restoration sound.restoration
  rcases decided with ⟨value, evaluated, meaning⟩
  have collects := repair_constraints_ok host typed contract.restoration sound.restoration
  rcases collects with ⟨repairs, collected⟩
  simp only [examineCompensation, computed, ensure_state_types_ok fits, evaluated, collected, bind,
    Except.bind, pure, Except.pure] at examined
  cases value with
  | true => cases examined
  | false =>
      simp only [Bool.false_eq_true, if_false, Except.ok.injEq, Option.some.injEq] at examined
      refine ⟨restored, leads, ?_, by rw [← examined]⟩
      intro holds
      cases meaning.mpr holds

theorem examine_genuine (sound : Sound contract) {rejection : Rejection}
    (original : Fits state contract.stateVariables) (given : Fits inputs contract.inputVariables)
    (examined : examine host contract state inputs = .ok (some rejection)) :
    rejection.counterexample.originalState = state ∧ rejection.counterexample.inputs = inputs ∧
      Genuine contract rejection.counterexample := by
  have before : Typed contract.stateVariables contract.inputVariables ⟨state, state, inputs⟩ :=
    ⟨original, original, given⟩
  have forward := transition_typed before sound.stateNames sound.forward
  rcases forward with ⟨after, computed, leads, fits⟩
  have typed : Typed contract.stateVariables contract.inputVariables ⟨after, state, inputs⟩ :=
    ⟨fits, original, given⟩
  have decided := condition_decided typed contract.postcondition sound.postcondition
  rcases decided with ⟨value, evaluated, meaning⟩
  have collects := repair_constraints_ok host typed contract.postcondition sound.postcondition
  rcases collects with ⟨repairs, collected⟩
  simp only [examine, computed, ensure_state_types_ok fits, evaluated, collected, bind,
    Except.bind, pure, Except.pure] at examined
  cases value with
  | true =>
      have rejected := compensation_rejects sound original given fits examined
      rcases rejected with ⟨restored, compensates, broken, same⟩
      rw [same]
      refine ⟨rfl, rfl, leads, ?_, ?_, ?_⟩
      · have holds := meaning.mp rfl
        simp [holds]
      · intro impossible
        simp at impossible
      · intro _
        exact ⟨rfl, restored, rfl, compensates, broken⟩
  | false =>
      simp only [Bool.false_eq_true, if_false, Except.ok.injEq, Option.some.injEq] at examined
      rw [← examined]
      refine ⟨rfl, rfl, leads, ?_, fun _ => rfl, fun other => absurd rfl other⟩
      have broken : ¬Holds ⟨after, state, inputs⟩ contract.postcondition := by
        intro holds
        cases meaning.mpr holds
      simp [broken]

end Counterexamples

section Run

variable {host : Host} {contract : CompensationContract}

/-- By induction on the cases: a rejection stops at the first violation, and the tally has
counted up to it. -/
theorem check_cases_first {pairs : List (Record × Record)}
    (settled : ∀ pair ∈ pairs, Settled host contract pair) {tally stopped : Tally}
    {rejection : Rejection}
    (rejected : checkCases host contract pairs tally = (.rejected rejection, stopped)) :
    ∃ before state inputs rest, pairs = before ++ (state, inputs) :: rest ∧
      (∀ pair ∈ before, Admits contract pair.1 pair.2 → Reverses contract pair.1 pair.2) ∧
      Admits contract state inputs ∧ ¬Reverses contract state inputs ∧
      examine host contract state inputs = .ok (some rejection) ∧
      stopped.casesChecked = tally.casesChecked + before.length + 1 ∧
      stopped.admissibleCases = tally.admissibleCases + before.countP (admits contract) + 1 := by
  induction pairs generalizing tally with
  | nil => cases rejected
  | cons pair rest ih =>
      rw [List.forall_mem_cons] at settled
      rcases check_cases_cons settled.1 rest tally with ⟨good, next⟩ | ⟨⟨holds, broken⟩, _⟩
      · rw [next] at rejected
        have later := ih settled.2 rejected
        rcases later with ⟨before, state, inputs, after, shape, quiet, admitted, violated, examined,
          checked, counted⟩
        refine ⟨pair :: before, state, inputs, after, by rw [shape, List.cons_append], ?_, admitted,
          violated, examined, ?_, ?_⟩
        · intro other member
          rcases List.mem_cons.mp member with same | inBefore
          · rw [same]
            exact good
          · exact quiet other inBefore
        · rw [checked, List.length_cons]
          dsimp only
          omega
        · rw [counted, List.countP_cons]
          cases admits contract pair with
          | true =>
              simp only [Bool.toNat_true, if_true]
              omega
          | false =>
              simp only [Bool.toNat_false, Bool.false_eq_true, if_false]
              omega
      · -- the violation is here: the case is admissible, and examining it rejects
        have admitted := settled.1.precondition
        rcases admitted with ⟨value, evaluated, meaning⟩
        have yes : value = true := meaning.mpr holds
        subst yes
        have outcome := settled.1.examined
        rcases outcome with ⟨result, examined, reverses⟩
        cases result with
        | none => exact absurd (reverses.mp rfl) broken
        | some found =>
            rw [checkCases, evaluated] at rejected
            dsimp only at rejected
            rw [examined] at rejected
            injection rejected with verdict tallied
            injection verdict with same
            refine ⟨[], pair.1, pair.2, rest, rfl, by simp, holds, broken, ?_, ?_, ?_⟩
            · rw [examined, same]
            · rw [← tallied]
              simp
            · rw [← tallied]
              simp

end Run

section Rejections

variable {host : Host} {contract : CompensationContract} {verifier : BoundedContractVerifier}

/-- The certificate of a rejection: the first violating case in the order of the loops, told
by a genuine counterexample, and the cases counted up to it. -/
structure FirstViolation (contract : CompensationContract)
    (certificate : VerificationCertificate) (found : ContractCounterexample)
    (before : List (Record × Record)) : Prop where
  reported : certificate.counterexample = some found
  drawn : found.originalState ∈ records (declaredDomains contract.stateVariables) ∧
    found.inputs ∈ records (declaredDomains contract.inputVariables)
  admissible : Admits contract found.originalState found.inputs
  violating : ¬Reverses contract found.originalState found.inputs
  order : ∃ rest, allCases contract = before ++ (found.originalState, found.inputs) :: rest
  earlier : ∀ pair ∈ before, Admits contract pair.1 pair.2 → Reverses contract pair.1 pair.2
  genuine : Genuine contract found
  checked : certificate.casesChecked = before.length + 1
  counted : certificate.admissibleCases = before.countP (admits contract) + 1

theorem all_cases_drawn {pair : Record × Record} (member : pair ∈ allCases contract) :
    pair.1 ∈ records (declaredDomains contract.stateVariables) ∧
      pair.2 ∈ records (declaredDomains contract.inputVariables) := by
  rw [allCases, cases, List.mem_flatMap] at member
  rcases member with ⟨state, inStates, member⟩
  rw [List.mem_map] at member
  rcases member with ⟨inputs, inInputs, same⟩
  rw [← same]
  exact ⟨inStates, inInputs⟩

theorem deserved_rejected_iff (contract : CompensationContract) :
    deserved contract = .rejected ↔
      ∃ point : Case contract, point.Admissible ∧
        ¬Reverses contract point.state point.inputs := by
  rw [deserved]
  split
  · rename_i violated
    simp [violated]
  · rename_i correct
    split
    · simp [correct]
    · simp [correct]

theorem conclude_first (prepared : Prepared host verifier.maxCases contract)
    (violated : ∃ point : Case contract, point.Admissible ∧
      ¬Reverses contract point.state point.inputs) :
    ∃ certificate, conclude host contract (checkCases host contract (allCases contract) {}) =
      .ok certificate ∧ certificate.status = .rejected ∧
        ∃ found before, FirstViolation contract certificate found before := by
  have sound := sound_of_valid prepared.valid
  have settled := case_settled host sound prepared.finite
  have somewhere : ∃ pair ∈ allCases contract, Admits contract pair.1 pair.2 ∧
      ¬Reverses contract pair.1 pair.2 := by
    rcases violated with ⟨point, holds, broken⟩
    have listed : (point.state, point.inputs) ∈ allCases contract :=
      ((all_cases_enumerate contract).mem_iff _).mpr ⟨point, rfl⟩
    exact ⟨_, listed, holds, broken⟩
  have stops := check_cases_rejected settled somewhere {}
  rcases stops with ⟨rejection, tally, stopped⟩
  have first := check_cases_first settled stopped
  rcases first with ⟨before, state, inputs, rest, shape, quiet, holds, broken, examined, checked,
    counted⟩
  have listed : (state, inputs) ∈ allCases contract := by
    rw [shape]
    simp
  have point := ((all_cases_enumerate contract).mem_iff _).mp listed
  rcases point with ⟨point, same⟩
  have fits := case_fits sound prepared.finite point
  injection same with sameState sameInputs
  rw [sameState, sameInputs] at fits
  have told := examine_genuine sound fits.1 fits.2 examined
  rcases told with ⟨original, given, genuine⟩
  rw [stopped]
  refine ⟨_, rfl, rfl, rejection.counterexample, before, ?_⟩
  constructor
  · rfl
  · rw [original, given]
    exact all_cases_drawn listed
  · rw [original, given]
    exact holds
  · rw [original, given]
    exact broken
  · rw [original, given]
    exact ⟨rest, shape⟩
  · exact quiet
  · exact genuine
  · change tally.casesChecked = before.length + 1
    rw [checked]
    simp
  · change tally.admissibleCases = before.countP (admits contract) + 1
    rw [counted]
    simp

/-- The verifier rejects a contract exactly when it is valid, its domains are finite and
within the limits, and an admissible case violates it; the rejection then reports the first
such case. -/
theorem rejected_iff_violated (verifier : BoundedContractVerifier) (host : Host)
    (contract : CompensationContract) :
    ∃ certificate, verifier.verify host contract = .ok certificate ∧
      (certificate.status = .rejected ↔
        Prepared host verifier.maxCases contract ∧ Nat.card (Case contract) ≤ verifier.maxCases ∧
          ∃ point : Case contract, point.Admissible ∧
            ¬Reverses contract point.state point.inputs) ∧
      (certificate.status = .rejected →
        ∃ found before, FirstViolation contract certificate found before) := by
  by_cases prepared : Prepared host verifier.maxCases contract
  · rw [verify_prepared prepared]
    by_cases large : Nat.card (Case contract) > verifier.maxCases
    · rw [if_pos large]
      refine ⟨_, rfl, ?_, ?_⟩
      · simp only [certificate, reduceCtorEq, false_iff]
        rintro ⟨_, small, _⟩
        omega
      · intro impossible
        cases impossible
    · rw [if_neg large]
      by_cases violated : ∃ point : Case contract, point.Admissible ∧
          ¬Reverses contract point.state point.inputs
      · have concluded := conclude_first prepared violated
        rcases concluded with ⟨certificate, answered, status, first⟩
        refine ⟨certificate, answered, ?_, fun _ => first⟩
        simp only [status, true_iff]
        exact ⟨prepared, by omega, violated⟩
      · have concluded := conclude_all_cases prepared
        rcases concluded with ⟨certificate, answered, status, _⟩
        have not_rejected : certificate.status ≠ .rejected := by
          rw [status]
          intro rejected
          exact violated ((deserved_rejected_iff contract).mp rejected)
        refine ⟨certificate, answered, ?_, fun rejected => absurd rejected not_rejected⟩
        simp only [not_rejected, false_iff]
        rintro ⟨_, _, point⟩
        exact violated point
  · have undecided := unprepared_undecided prepared
    rcases undecided with ⟨certificate, answered, _, not_rejected⟩
    refine ⟨certificate, answered, ?_, fun rejected => absurd rejected not_rejected⟩
    simp only [not_rejected, false_iff]
    rintro ⟨ready, _⟩
    exact prepared ready

end Rejections

section Sample

def brokenWithdrawal : CompensationContract :=
  { withdrawalContract with
    compensation :=
      ⟨[⟨"balance", .binary .subtract (.ref "balance" .state) (.ref "amount" .input)⟩]⟩ }

example (host : Host) :
    (boundedContractVerifier.verify host brokenWithdrawal).map (fun certificate =>
      (certificate.status, certificate.casesChecked, certificate.admissibleCases,
        certificate.counterexample.map ContractCounterexample.violatedProperty)) =
      .ok (.rejected, 5, 3, some "restoration") := by
  rfl

end Sample

end SagaMind.Contracts
