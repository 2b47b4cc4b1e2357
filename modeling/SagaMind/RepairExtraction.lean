import SagaMind.Verifier.Z3Prover

/-!
# When a rejection is reported

The third token of a comparison is an argument, another name or a numeral. The
extraction raises on another name and on an integer numeral that is too long for
`int`, and only there.
-/

namespace SagaMind.Verifier

open Scanning

set_option autoImplicit false

def isName (rawLimit : String) : Bool := rawLimit.toList.head?.any nameStart

/-- Wherever the comparison of an argument needs a number, it holds a numeral that
Python converts. -/
def Readable (invariants : String) (args : ActionArgs) : Prop :=
  ∀ found ∈ simpleComparisons invariants,
    (args.get found.field).isSome → (args.get found.rawLimit).isNone →
      isName found.rawLimit = false ∧
        ('.' ∈ found.rawLimit.toList ∨ (unsigned found.rawLimit.toList).length ≤ maxStrDigits)

section Tokens

theorem name_not_digits {atom : List Char} (name : atom.head?.any nameStart = true) :
    (unsigned atom).all isDigit = false := by
  cases atom with
  | nil => cases name
  | cons first later =>
      have start : nameStart first = true := name
      have plain : first ≠ '-' := by
        rintro rfl
        exact absurd start (by decide)
      rw [unsigned_plain plain, List.all_cons, name_start_not_digit start, Bool.false_and]

def Token (atom : List Char) : Prop :=
  (atom.head?.any nameStart = true ∧ '.' ∉ atom) ∨
    (atom.head?.any nameStart = false ∧
      ('.' ∈ atom ∨ (unsigned atom ≠ [] ∧ (unsigned atom).all isDigit = true)))

theorem read_name_token {text name rest : List Char} (read : readName text = some (name, rest)) :
    name.head?.any nameStart = true ∧ '.' ∉ name := by
  cases text with
  | nil => cases read
  | cons c text =>
      rw [readName] at read
      split at read
      · rename_i start
        cases read
        refine ⟨start, ?_⟩
        intro member
        rcases List.mem_cons.mp member with rfl | later
        · exact absurd start (by decide)
        · have every := List.all_eq_true.mp (List.all_takeWhile (p := nameRest) (l := text)) '.' later
          exact absurd every (by decide)
      · cases read

theorem read_unsigned_digits {text number rest : List Char}
    (read : readUnsigned text = some (number, rest)) :
    ∃ first later, number = first :: later ∧ isDigit first = true ∧
      ('.' ∈ number ∨ number.all isDigit = true) := by
  rw [readUnsigned, Option.map_eq_some_iff] at read
  obtain ⟨⟨whole, behind⟩, taken, equal⟩ := read
  obtain ⟨some, digits⟩ := run_taken taken
  have fraction : (readFraction behind).1 = [] ∨ '.' ∈ (readFraction behind).1 := by
    unfold readFraction
    split
    · split
      · exact .inr List.mem_cons_self
      · exact .inl rfl
    · exact .inl rfl
  cases equal
  cases whole with
  | nil => exact absurd rfl some
  | cons first later =>
      have leading : isDigit first = true := List.all_eq_true.mp digits first List.mem_cons_self
      refine ⟨first, later ++ (readFraction behind).1, rfl, leading, ?_⟩
      rcases fraction with absent | dotted
      · right
        dsimp only
        rw [absent, List.append_nil]
        exact digits
      · exact .inl (List.mem_append_right _ dotted)

theorem read_number_token {text number rest : List Char}
    (read : readNumber text = some (number, rest)) :
    number.head?.any nameStart = false ∧
      ('.' ∈ number ∨ (unsigned number ≠ [] ∧ (unsigned number).all isDigit = true)) := by
  unfold readNumber at read
  split at read
  · rw [Option.map_eq_some_iff] at read
    obtain ⟨⟨digits, behind⟩, taken, equal⟩ := read
    cases equal
    obtain ⟨first, later, rfl, -, shape⟩ := read_unsigned_digits taken
    refine ⟨rfl, ?_⟩
    rcases shape with dotted | digits
    · exact .inl (List.mem_cons_of_mem _ dotted)
    · exact .inr ⟨List.cons_ne_nil _ _, digits⟩
  · obtain ⟨first, later, rfl, digit, shape⟩ := read_unsigned_digits read
    obtain ⟨letter, sign⟩ := digit_first digit
    refine ⟨letter, ?_⟩
    rw [unsigned_plain sign]
    exact shape.imp_right fun digits => ⟨List.cons_ne_nil _ _, digits⟩

theorem raw_limit_token {invariants : String} {found : SimpleComparison}
    (listed : found ∈ simpleComparisons invariants) : Token found.rawLimit.toList := by
  obtain ⟨front, rest, read⟩ := findall_read listed
  simp only [readComparison, Option.bind_eq_bind, Option.bind_eq_some_iff] at read
  obtain ⟨_, -, _, -, _, -, _, -, _, -, ⟨atom, behind⟩, taken, _, -, whole⟩ := read
  cases whole
  rw [String.toList_ofList]
  rw [readAtom, Option.or_eq_some_iff] at taken
  rcases taken with name | ⟨-, number⟩
  · exact .inl (read_name_token name)
  · exact .inr (read_number_token number)

end Tokens

section Conversion

theorem to_int_ok_iff (text : String) :
    (∃ number, toInt text = .ok number) ↔
      (unsigned text.toList ≠ [] ∧ (unsigned text.toList).all isDigit = true) ∧
        (unsigned text.toList).length ≤ maxStrDigits := by
  unfold toInt
  dsimp only
  split
  · rename_i bad
    simp only [reduceCtorEq, exists_false, false_iff]
    rintro ⟨⟨some, digits⟩, -⟩
    rcases bad with empty | other
    · exact some empty
    · rw [digits] at other
      cases other
  · rename_i good
    rw [not_or, Bool.not_eq_false] at good
    split
    · rename_i long
      simp only [reduceCtorEq, exists_false, false_iff]
      exact fun short => absurd short.2 (by omega)
    · rename_i short
      refine iff_of_true ?_ ⟨good, by omega⟩
      split
      · exact ⟨_, rfl⟩
      · exact ⟨_, rfl⟩

variable {float : String → Sandbox.PyFloat} {args : ActionArgs}

theorem read_limit_ok_iff {rawLimit : String} (token : Token rawLimit.toList) :
    (∃ limit, readLimit float args rawLimit = .ok limit) ↔
      ((args.get rawLimit).isNone → isName rawLimit = false ∧
        ('.' ∈ rawLimit.toList ∨ (unsigned rawLimit.toList).length ≤ maxStrDigits)) := by
  unfold readLimit
  cases args.get rawLimit with
  | some concrete => simp
  | none =>
      simp only [Option.isNone_none, forall_const]
      split
      · rename_i dotted
        have number : isName rawLimit = false := by
          rcases token with ⟨-, plain⟩ | ⟨number, -⟩
          · exact absurd dotted plain
          · exact number
        exact iff_of_true ⟨_, rfl⟩ ⟨number, .inl dotted⟩
      · rename_i plain
        have converted : (∃ limit, (toInt rawLimit).map
            (fun number => (Limit.number (.int number), Scalar.int number)) = .ok limit) ↔
              ∃ number, toInt rawLimit = .ok number := by
          cases toInt rawLimit <;> simp [Except.map]
        rw [converted, to_int_ok_iff]
        rcases token with ⟨name, -⟩ | ⟨number, dotted | digits⟩
        · rw [isName, name, name_not_digits name]
          simp
        · exact absurd dotted plain
        · rw [isName, number]
          simp [digits.1, digits.2, plain]

theorem repair_ok_iff {found : SimpleComparison} (token : Token found.rawLimit.toList) :
    (∃ own, repairOf float args found = .ok own) ↔
      ((args.get found.field).isSome → (args.get found.rawLimit).isNone →
        isName found.rawLimit = false ∧
          ('.' ∈ found.rawLimit.toList ∨
            (unsigned found.rawLimit.toList).length ≤ maxStrDigits)) := by
  unfold repairOf
  cases args.get found.field with
  | none => simp
  | some value =>
      simp only [Option.isSome_some, forall_const]
      have limits := @read_limit_ok_iff float args found.rawLimit token
      rw [← limits]
      cases readLimit float args found.rawLimit with
      | error message => exact iff_of_false (fun ⟨_, returned⟩ => nomatch returned) (by simp)
      | ok limit =>
          refine iff_of_true ?_ ⟨limit, rfl⟩
          change ∃ own, (if violated found.operator value limit.2 = some true then _ else _) = _
          split
          · exact ⟨_, rfl⟩
          · exact ⟨_, rfl⟩

theorem repairs_ok_iff (comparisons : List SimpleComparison) :
    (∃ repairs, repairsOf float args comparisons = .ok repairs) ↔
      ∀ found ∈ comparisons, ∃ own, repairOf float args found = .ok own := by
  induction comparisons with
  | nil => exact iff_of_true ⟨[], rfl⟩ (by simp)
  | cons found comparisons ih =>
      rw [List.forall_mem_cons, ← ih, repairsOf]
      cases repairOf float args found with
      | error message => exact iff_of_false (fun ⟨_, returned⟩ => nomatch returned) (by simp)
      | ok own =>
          cases repairsOf float args comparisons with
          | error message => exact iff_of_false (fun ⟨_, returned⟩ => nomatch returned) (by simp)
          | ok later => exact iff_of_true ⟨_, rfl⟩ ⟨⟨own, rfl⟩, ⟨later, rfl⟩⟩

theorem derive_ok_iff (float : String → Sandbox.PyFloat) (invariants : String) (args : ActionArgs) :
    (∃ repairs, deriveRepairConstraints float invariants args = .ok repairs) ↔
      Readable invariants args := by
  rw [deriveRepairConstraints, repairs_ok_iff]
  exact forall₂_congr fun found listed => repair_ok_iff (raw_limit_token listed)

end Conversion

/-- A refuted policy has an assertion, so it is not blank and reaches the solver. -/
theorem verify_refuted (self : Z3Verifier) {solver : Solver} {arguments : Sandbox.Arguments}
    {invariants : String} {first : solver.Formula} {rest : List solver.Formula}
    (float : String → Sandbox.PyFloat) (active : self.solver = some solver)
    (supported : Z3Verifier.unsupported arguments = [])
    (declared : solver.constrain (Z3Verifier.supportedArgs arguments) = .ok ())
    (parsed : solver.parse invariants (Z3Verifier.supportedArgs arguments) = .ok (first :: rest))
    (refuted : solver.refute (Z3Verifier.supportedArgs arguments) (first :: rest) = .sat) :
    self.verifyDetailed float arguments invariants =
      match deriveRepairConstraints float invariants (Z3Verifier.supportedArgs arguments) with
      | .error message => .error (.valueError message)
      | .ok repairs => .ok {
          allowed := false
          status := .rejected
          explanation := "Safety constraint violation."
          violatedProperty := some invariants
          counterexample := some (Z3Verifier.supportedArgs arguments)
          repairConstraints := repairs } := by
  have asserted : Contracts.blank invariants = false := by
    by_contra blank
    rw [Bool.not_eq_false] at blank
    rw [solver.blank_parses _ _ blank] at parsed
    cases parsed
  cases derived :
      deriveRepairConstraints float invariants (Z3Verifier.supportedArgs arguments) <;>
    simp only [Z3Verifier.verifyDetailed, supported, asserted, active, Z3Verifier.z3VerifyDetailed,
      declared, parsed, refuted, derived, ne_eq, not_true_eq_false, Bool.false_eq_true, if_false]

/-- A rejection of the solver is reported exactly when the extraction can read every
limit, and this is when the extraction returns. -/
theorem rejection_reported_iff (self : Z3Verifier) (float : String → Sandbox.PyFloat)
    (solver : Solver) (arguments : Sandbox.Arguments) (invariants : String)
    (first : solver.Formula) (rest : List solver.Formula) (active : self.solver = some solver)
    (supported : Z3Verifier.unsupported arguments = [])
    (declared : solver.constrain (Z3Verifier.supportedArgs arguments) = .ok ())
    (parsed : solver.parse invariants (Z3Verifier.supportedArgs arguments) = .ok (first :: rest))
    (refuted : solver.refute (Z3Verifier.supportedArgs arguments) (first :: rest) = .sat) :
    ((∃ result, self.verifyDetailed float arguments invariants = .ok result ∧
        result.allowed = false ∧ result.status = .rejected) ↔
      Readable invariants (Z3Verifier.supportedArgs arguments)) ∧
    ∀ (text : String) (args : ActionArgs),
      (∃ repairs, deriveRepairConstraints float text args = .ok repairs) ↔ Readable text args := by
  refine ⟨?_, derive_ok_iff float⟩
  rw [← derive_ok_iff float, verify_refuted self float active supported declared parsed refuted]
  cases deriveRepairConstraints float invariants (Z3Verifier.supportedArgs arguments) with
  | error message =>
      exact iff_of_false (fun ⟨_, returned, _⟩ => nomatch returned) (by simp)
  | ok repairs => exact iff_of_true ⟨_, rfl, rfl, rfl⟩ ⟨repairs, rfl⟩

section Samples

/-- A solver that takes a text for one assertion, which the arguments refute. -/
def refuting : Solver where
  Formula := Unit
  constrain _ := .ok ()
  parse text _ := .ok (if Contracts.blank text then [] else [()])
  refute _ _ := .sat
  blank_parses _ _ blank := by rw [if_pos blank]

def refutingVerifier : Z3Verifier := { solver := some refuting, root := .root }

def paymentArguments : Sandbox.Arguments :=
  { rows := [("amount", .int 1500), ("account_balance", .int 900)], distinct := by decide }

theorem payment_rejection_reported :
    ∃ result, refutingVerifier.verifyDetailed (fun _ => .nan) paymentArguments
        "(assert (>= amount 0)) (assert (<= amount account_balance))" = .ok result ∧
      result.allowed = false ∧ result.status = .rejected := by
  refine (rejection_reported_iff refutingVerifier (fun _ => .nan) refuting paymentArguments
    "(assert (>= amount 0)) (assert (<= amount account_balance))" () [] rfl ?_ rfl rfl rfl).1.mpr ?_
  · simp [Z3Verifier.unsupported, paymentArguments, Z3Verifier.supportedScalar]
  · intro found listed own foreign
    have read : simpleComparisons "(assert (>= amount 0)) (assert (<= amount account_balance))" =
        [{ operator := .ge, field := "amount", rawLimit := "0" },
          { operator := .le, field := "amount", rawLimit := "account_balance" }] := by decide
    rw [read] at listed
    rcases List.mem_pair.mp listed with rfl | rfl
    · exact ⟨by decide, .inr (by decide)⟩
    · cases foreign

def flagArguments : Sandbox.Arguments := { rows := [("flag", .bool false)], distinct := by decide }

/-- `int` raises on `true`, which is a constant of the policy and no argument. -/
theorem flag_rejection_raises :
    refutingVerifier.solver = some refuting ∧ Z3Verifier.unsupported flagArguments = [] ∧
    refuting.constrain (Z3Verifier.supportedArgs flagArguments) = .ok () ∧
    refuting.parse "(assert (= flag true))" (Z3Verifier.supportedArgs flagArguments) = .ok [()] ∧
    refuting.refute (Z3Verifier.supportedArgs flagArguments) [()] = .sat ∧
    refutingVerifier.verifyDetailed (fun _ => .nan) flagArguments "(assert (= flag true))" =
      .error (.valueError "invalid literal for int() with base 10: 'true'") := by
  have supported : Z3Verifier.unsupported flagArguments = [] := by
    simp [Z3Verifier.unsupported, flagArguments, Z3Verifier.supportedScalar]
  refine ⟨rfl, supported, rfl, rfl, rfl, ?_⟩
  have reached := verify_refuted refutingVerifier (fun _ => .nan) rfl supported rfl
    (show refuting.parse "(assert (= flag true))" _ = .ok [()] from rfl) rfl
  rw [reached]
  rfl

end Samples

end SagaMind.Verifier
