import SagaMind.RepairExtraction
import SagaMind.Verifier.PolicyTexts

/-!
# When the hints agree with the policy

A hint states a comparison that the arguments fail, whatever stands around it in
the policy. All hints can be followed together with the policy exactly when some
branch of its disjunctive form can: when no chain of order constraints from the
branch and the failed comparisons contradicts itself. Numbers are exact here.
-/

namespace SagaMind.Verifier

open KeyedTable OrderConstraints
open Sandbox (PyFloat)

set_option autoImplicit false

/-- What `RealVal` makes of a number that is no `bool`. -/
def Scalar.real? : Scalar → Option ℚ
  | .int number => some number
  | .float (.finite number) => some number
  | _ => none

/-- An argument map of numbers. -/
structure NumericArgs where
  args : ActionArgs
  numeric : ∀ row ∈ args.rows, ∃ number, row.2.real? = some number

section Maps

namespace NumericArgs

def real (self : NumericArgs) (name : String) : ℚ :=
  ((self.args.get name).bind Scalar.real?).getD 0

theorem real_of_get {self : NumericArgs} {name : String} {value : Scalar}
    (present : self.args.get name = some value) : value.real? = some (self.real name) := by
  have row : ∃ row ∈ self.args.rows, row.2 = value := by
    obtain ⟨row, found, equal⟩ := Option.map_eq_some_iff.mp present
    exact ⟨row, List.mem_of_find?_eq_some found, equal⟩
  obtain ⟨row, member, rfl⟩ := row
  obtain ⟨number, read⟩ := self.numeric row member
  rw [real, present, Option.bind_some, read]
  rfl

def revalued (self : NumericArgs) (assign : String → ℚ) : NumericArgs where
  args := {
    rows := self.args.rows.map fun row => (row.1, .float (.finite (assign row.1)))
    distinct := by
      rw [List.map_map]
      exact self.args.distinct }
  numeric := by
    intro row member
    obtain ⟨old, -, rfl⟩ := List.mem_map.mp member
    exact ⟨assign old.1, rfl⟩

theorem get_revalued (self : NumericArgs) (assign : String → ℚ) (name : String) :
    (self.revalued assign).args.get name =
      (self.args.get name).map fun _ => .float (.finite (assign name)) := by
  have each : ∀ rows : List (String × Scalar),
      ((rows.map fun row => (row.1, Scalar.float (.finite (assign row.1)))).find? fun row =>
        row.1 = name).map Prod.snd =
          ((rows.find? fun row => row.1 = name).map Prod.snd).map fun _ =>
            Scalar.float (.finite (assign name)) := by
    intro rows
    induction rows with
    | nil => rfl
    | cons row rows ih =>
        by_cases here : row.1 = name
        · rw [List.map_cons, List.find?_cons_of_pos (by simpa using here),
            List.find?_cons_of_pos (by simpa using here), here]
          rfl
        · rw [List.map_cons, List.find?_cons_of_neg (by simpa using here),
            List.find?_cons_of_neg (by simpa using here), ih]
  exact each self.args.rows

theorem real_revalued {self : NumericArgs} {name : String} (present : (self.args.get name).isSome)
    (assign : String → ℚ) : (self.revalued assign).real name = assign name := by
  obtain ⟨value, found⟩ := Option.isSome_iff_exists.mp present
  rw [real, get_revalued, found]
  rfl

end NumericArgs

/-- Every name in the policy is an argument. -/
def Policy.Declared (policy : Policy) (args : ActionArgs) : Prop :=
  ∀ basic ∈ policy.comparisons, ∀ name ∈ basic.names, (args.get name).isSome

def Policy.Satisfiable (policy : Policy) : Prop :=
  ∃ args : NumericArgs, policy.Declared args.args ∧ policy.holds args.real = true

theorem declared_revalued {policy : Policy} {args : NumericArgs} (declared : policy.Declared args.args)
    (assign : String → ℚ) : policy.Declared (args.revalued assign).args := by
  intro basic listed name member
  rw [NumericArgs.get_revalued, Option.isSome_map]
  exact declared basic listed name member

theorem holds_revalued {policy : Policy} {args : NumericArgs} (declared : policy.Declared args.args)
    (assign : String → ℚ) : policy.holds (args.revalued assign).real = policy.holds assign :=
  policy_congr fun basic listed name member =>
    NumericArgs.real_revalued (declared basic listed name member) assign

/-- A policy can be met exactly when some branch is free of contradictory chains. -/
theorem satisfiable_iff_branch {policy : Policy} {args : NumericArgs}
    (declared : policy.Declared args.args) :
    policy.Satisfiable ↔ ∃ branch ∈ policy.branches true, ¬ Contradictory branch := by
  constructor
  · rintro ⟨met, -, holds⟩
    obtain ⟨branch, member, hold⟩ := (meets_branches policy true).mpr holds
    exact ⟨branch, member, (satisfiable_iff branch).mp ⟨met.real, hold⟩⟩
  · rintro ⟨branch, member, consistent⟩
    obtain ⟨assign, hold⟩ := (satisfiable_iff branch).mpr consistent
    refine ⟨args.revalued assign, declared_revalued declared assign, ?_⟩
    rw [holds_revalued declared]
    exact (meets_branches policy true).mp ⟨branch, member, hold⟩

end Maps

section Constraints

def Limit.scalar (args : ActionArgs) : Limit → Option Scalar
  | .field name => args.get name
  | .number value => some value

def Keyword.met (value limit : Scalar) : Keyword → Bool
  | .maximum => value.le limit = some true
  | .exclusiveMaximum => value.lt limit = some true
  | .minimum => limit.le value = some true
  | .exclusiveMinimum => limit.lt value = some true
  | .const => value.equals limit

def RepairConstraint.Met (args : ActionArgs) (repair : RepairConstraint) : Prop :=
  ∃ value limit, args.get repair.field = some value ∧ repair.value.scalar args = some limit ∧
    repair.constraint.met value limit = true

/-- All hints can be followed by a map that meets the policy. -/
def HintsConsistent (float : String → PyFloat) (policy : Policy) (invariants : String)
    (args : NumericArgs) : Prop :=
  policy.Satisfiable →
    ∃ repairs, deriveRepairConstraints float invariants args.args = .ok repairs ∧
      ∃ repaired : NumericArgs, policy.Declared repaired.args ∧
        policy.holds repaired.real = true ∧ ∀ repair ∈ repairs, repair.Met repaired.args

end Constraints

section Failures

/-- What the third token stands for, as the extraction reads it: an argument of that
name, or else a number. -/
def Atom.limit (float : String → PyFloat) (args : ActionArgs) (atom : Atom) : Term String PyFloat :=
  if (args.get atom.text).isSome then .name atom.text
  else match atom with
    | .argument symbol => .name symbol.name
    | .numeral number =>
        .value (if number.fraction = [] then .finite number.value else float atom.text)

variable (float : String → PyFloat) (args : NumericArgs)

def Comparison.fails (basic : Comparison) : Bool :=
  violated basic.operator (.float (.finite (args.real basic.field.name)))
    (.float ((basic.atom.limit float args.args).at fun name => .finite (args.real name))) = some true

/-- The comparison as order constraints. None of its own can be met if its limit is
infinite or no number. -/
def Comparison.required (basic : Comparison) : Branch :=
  match basic.atom.limit float args.args with
  | .name other => basic.operator.bounds (.name basic.field.name) (.name other)
  | .value (.finite number) => basic.operator.bounds (.name basic.field.name) (.value number)
  | .value _ => [⟨.value 0, .value 0, true⟩]

def failedBounds (comparisons : List Comparison) : Branch :=
  (comparisons.filter fun basic => basic.legible && basic.fails float args).flatMap
    fun basic => basic.required float args

end Failures

section Numbers

theorem number_of_real {value : Scalar} {number : ℚ} (real : value.real? = some number) :
    value.number? = some (.finite number) := by
  cases value with
  | int integer =>
      cases real
      rfl
  | float float =>
      cases float with
      | finite _ =>
          cases real
          rfl
      | _ => cases real
  | _ => cases real

variable {value limit : Scalar} {left right : PyFloat}

theorem lt_numbers (first : value.number? = some left) (second : limit.number? = some right) :
    value.lt limit = some (left.lt right) := by
  cases value with
  | str text => cases first
  | _ => cases limit with
    | str text => cases second
    | _ => rw [Scalar.lt, first, second]; simp

theorem equals_floats (first : value.number? = some left) (second : limit.number? = some right) :
    value.equals limit = left.eq right := by
  cases value with
  | str text => cases first
  | _ => cases limit with
    | str text => cases second
    | _ => rw [Scalar.equals, first, second]; simp

theorem violated_numbers (operator : Operator) (first : value.number? = some left)
    (second : limit.number? = some right) :
    violated operator value limit = violated operator (.float left) (.float right) := by
  have float : ∀ number, (Scalar.float number).number? = some number := fun _ => rfl
  simp only [violated, Scalar.le, lt_numbers first second, lt_numbers second first,
    equals_floats first second, equals_floats second first, lt_numbers (float left) (float right),
    lt_numbers (float right) (float left), equals_floats (float left) (float right),
    equals_floats (float right) (float left)]

theorem met_numbers (keyword : Keyword) (first : value.number? = some left)
    (second : limit.number? = some right) :
    keyword.met value limit = keyword.met (.float left) (.float right) := by
  have float : ∀ number, (Scalar.float number).number? = some number := fun _ => rfl
  cases keyword <;>
    simp only [Keyword.met, Scalar.le, lt_numbers first second, lt_numbers second first,
      equals_floats first second, equals_floats second first, lt_numbers (float left) (float right),
      lt_numbers (float right) (float left), equals_floats (float left) (float right),
      equals_floats (float right) (float left)]

theorem met_finite (operator : Operator) (left right : ℚ) :
    (operatorNames operator).met (.float (.finite left)) (.float (.finite right)) =
      operator.holds left right := by
  cases operator <;>
    simp [operatorNames, Keyword.met, Operator.holds, Scalar.le, Scalar.lt, Scalar.equals,
      Scalar.number?, PyFloat.lt, PyFloat.eq, le_iff_lt_or_eq]

/-- A violated limit that is infinite or no number stays violated. -/
theorem met_infinite {operator : Operator} {number other : ℚ} {limit : PyFloat}
    (infinite : ∀ value, limit ≠ .finite value)
    (fails : violated operator (.float (.finite number)) (.float limit) = some true) :
    (operatorNames operator).met (.float (.finite other)) (.float limit) = false := by
  cases limit with
  | finite value => exact absurd rfl (infinite value)
  | nan => cases operator <;> rfl
  | infinite negative =>
      cases negative <;> cases operator <;>
        first
        | rfl
        | exact absurd (show some false = some true from fails) (by decide)

end Numbers

section Reading

theorem natural_digits (numbers : List (Fin 10)) :
    natural (Numeral.digits numbers) = Numeral.decimal numbers := by
  have each : ∀ digit : Fin 10, (digitValue (Nat.digitChar digit.val)).getD 0 = digit.val := by
    decide
  rw [natural, Numeral.digits, List.foldl_map, Numeral.decimal]
  simp only [each]

/-- `int` of a numeral without a fraction is its value. -/
theorem to_int_numeral {numeral : Numeral} (whole : numeral.fraction = [])
    (short : (unsigned numeral.chars).length ≤ maxStrDigits) :
    ∃ number : Int, toInt (String.ofList numeral.chars) = .ok number ∧
      (number : ℚ) = numeral.value := by
  have some := digits_some numeral.some
  have digits : (Numeral.digits numeral.whole).all isDigit = true :=
    List.all_eq_true.mpr (digits_digit numeral.whole)
  have value : numeral.value =
      (if numeral.negative then -1 else 1) * (Numeral.decimal numeral.whole : ℚ) := by
    rw [Numeral.value, whole, List.append_nil, List.length_nil, pow_zero, div_one]
  rw [value]
  rw [Numeral.chars, whole] at short ⊢
  cases sign : numeral.negative with
  | true =>
      simp only [sign, if_true, List.append_nil, List.cons_append, List.nil_append, unsigned] at short ⊢
      refine ⟨-Numeral.decimal numeral.whole, ?_,
        by rw [Int.cast_neg, Int.cast_natCast, neg_one_mul]⟩
      have longer : Numeral.digits numeral.whole ≠ '-' :: Numeral.digits numeral.whole := by
        intro equal
        have length := congrArg List.length equal
        rw [List.length_cons] at length
        omega
      simp only [toInt, String.toList_ofList, unsigned]
      rw [if_neg (by simp [some, digits]), if_neg (by omega), if_neg longer, natural_digits]
  | false =>
      simp only [sign, Bool.false_eq_true, if_false, if_true, List.append_nil, List.nil_append]
        at short ⊢
      refine ⟨Numeral.decimal numeral.whole, ?_, by rw [Int.cast_natCast, one_mul]⟩
      have bare : unsigned (Numeral.digits numeral.whole) = Numeral.digits numeral.whole := by
        cases leading : Numeral.digits numeral.whole with
        | nil => exact absurd leading some
        | cons first later =>
            have digit : isDigit first = true :=
              digits_digit numeral.whole first (leading ▸ List.mem_cons_self)
            exact unsigned_plain (digit_first digit).2 later
      rw [bare] at short
      simp only [toInt, String.toList_ofList, bare]
      rw [if_neg (by simp [some, digits]), if_neg (by omega), if_pos trivial, natural_digits]

theorem mem_numeral_point {numeral : Numeral} : '.' ∈ numeral.chars ↔ numeral.fraction ≠ [] := by
  have digit : ∀ numbers, '.' ∉ Numeral.digits numbers :=
    fun numbers member => absurd (digits_digit numbers '.' member) (by decide)
  rw [Numeral.chars, List.mem_append, List.mem_append]
  constructor
  · rintro ((sign | whole) | fraction)
    · split at sign
      · exact absurd (List.mem_singleton.mp sign) (by decide)
      · cases sign
    · exact absurd whole (digit _)
    · intro empty
      rw [if_pos empty] at fraction
      cases fraction
  · intro fraction
    rw [if_neg fraction]
    exact .inr List.mem_cons_self

def Denotes (limit : Limit) (term : Term String PyFloat) : Prop :=
  ∀ (others : NumericArgs) (value : Scalar), limit.scalar others.args = some value →
    value.number? = some (term.at fun name => .finite (others.real name))

/-- A limit that can be read is read as what the third token stands for. -/
theorem read_limit_denotes (float : String → PyFloat) {args : ActionArgs} {atom : Atom}
    (declared : ∀ name ∈ atom.names, (args.get name).isSome)
    (readable : (args.get atom.text).isNone → '.' ∈ atom.text.toList ∨
      (unsigned atom.text.toList).length ≤ maxStrDigits) :
    ∃ limit concrete, readLimit float args atom.text = .ok (limit, concrete) ∧
      limit.scalar args = some concrete ∧ Denotes limit (atom.limit float args) := by
  unfold readLimit Atom.limit
  cases known : args.get atom.text with
  | some concrete =>
      refine ⟨.field atom.text, concrete, rfl, known, ?_⟩
      intro others value present
      exact number_of_real (NumericArgs.real_of_get present)
  | none =>
      cases atom with
      | argument symbol =>
          have present := declared symbol.name (List.mem_singleton_self _)
          rw [show args.get symbol.name = none from known] at present
          cases present
      | numeral number =>
          have limits := readable (by rw [known]; rfl)
          rw [Atom.text, String.toList_ofList] at limits ⊢
          dsimp only
          by_cases fraction : number.fraction = []
          · have whole : '.' ∉ number.chars := fun point => mem_numeral_point.mp point fraction
            rcases limits with point | short
            · exact absurd point whole
            · obtain ⟨integer, converted, value⟩ := to_int_numeral fraction short
              refine ⟨.number (.int integer), .int integer, ?_, rfl, ?_⟩
              · rw [if_neg whole, converted]
                rfl
              · rintro others _ ⟨⟩
                simp [Scalar.number?, Term.at, fraction, value]
          · refine ⟨.number (.float (float (String.ofList number.chars))),
              .float (float (String.ofList number.chars)), ?_, rfl, ?_⟩
            · rw [if_pos (mem_numeral_point.mpr fraction)]
            · rintro others _ ⟨⟩
              simp [Scalar.number?, Term.at, fraction]

end Reading

section Hints

variable {float : String → PyFloat} {args : NumericArgs}

/-- Under any assignment the hint of a failed comparison says what it requires. -/
theorem met_iff_required {basic : Comparison} (fails : basic.fails float args = true)
    (assign : String → ℚ) :
    (operatorNames basic.operator).met (.float (.finite (assign basic.field.name)))
        (.float ((basic.atom.limit float args.args).at fun name => .finite (assign name))) = true ↔
      ∀ bound ∈ basic.required float args, bound.Holds assign := by
  rw [Comparison.fails, decide_eq_true_eq] at fails
  have never : ∀ limit : PyFloat, (∀ value, limit ≠ .finite value) →
      basic.atom.limit float args.args = .value limit →
      ((operatorNames basic.operator).met (.float (.finite (assign basic.field.name)))
          (.float limit) = true ↔
        ∀ bound ∈ ([⟨.value 0, .value 0, true⟩] : Branch), bound.Holds assign) := by
    intro limit infinite read
    rw [read] at fails
    refine iff_of_false ?_ ?_
    · rw [met_infinite infinite fails]
      exact Bool.false_ne_true
    · intro hold
      exact lt_irrefl (0 : ℚ) (hold _ (List.mem_singleton_self _))
  rw [Comparison.required]
  cases read : basic.atom.limit float args.args with
  | name other =>
      dsimp only [Term.at]
      rw [met_finite, bounds_hold_iff]
      rfl
  | value limit =>
      cases limit with
      | finite number =>
          dsimp only [Term.at]
          rw [met_finite, bounds_hold_iff]
          rfl
      | nan => exact never .nan (fun _ => PyFloat.noConfusion) read
      | infinite negative => exact never (.infinite negative) (fun _ => PyFloat.noConfusion) read

structure Follows (args : NumericArgs) (repairs : List RepairConstraint) (required : Branch) :
    Prop where
  sound : ∀ others : NumericArgs, (∀ repair ∈ repairs, repair.Met others.args) →
    ∀ bound ∈ required, bound.Holds others.real
  complete : ∀ assign : String → ℚ, (∀ bound ∈ required, bound.Holds assign) →
    ∀ repair ∈ repairs, repair.Met (args.revalued assign).args

theorem follows_append {args : NumericArgs} {repairs later : List RepairConstraint}
    {required required' : Branch} (first : Follows args repairs required)
    (second : Follows args later required') :
    Follows args (repairs ++ later) (required ++ required') where
  sound others met := by
    rw [List.forall_mem_append] at met ⊢
    exact ⟨first.sound others met.1, second.sound others met.2⟩
  complete assign hold := by
    rw [List.forall_mem_append] at hold ⊢
    exact ⟨first.complete assign hold.1, second.complete assign hold.2⟩

theorem follows_nil (args : NumericArgs) : Follows args [] [] := ⟨fun _ _ => nofun, fun _ _ => nofun⟩

theorem limit_at_revalued {atom : Atom} (declared : ∀ name ∈ atom.names, (args.args.get name).isSome)
    (assign : String → ℚ) :
    (atom.limit float args.args).at (fun name => PyFloat.finite ((args.revalued assign).real name)) =
      (atom.limit float args.args).at fun name => .finite (assign name) := by
  unfold Atom.limit
  split
  · rename_i known
    rw [Term.at, Term.at, NumericArgs.real_revalued known]
  · cases atom with
    | numeral number => rfl
    | argument symbol =>
        have known := declared symbol.name (List.mem_singleton_self _)
        dsimp only [Term.at]
        rw [NumericArgs.real_revalued known]

def Comparison.hint (basic : Comparison) (limit : Limit) : RepairConstraint where
  field := basic.field.name
  constraint := operatorNames basic.operator
  value := limit
  predicate := basic.field.name ++ " " ++ basic.operator.symbol ++ " " ++ basic.atom.text

theorem hint_sound {basic : Comparison} {limit : Limit} (fails : basic.fails float args = true)
    (denotes : Denotes limit (basic.atom.limit float args.args)) {others : NumericArgs}
    (met : (basic.hint limit).Met others.args) :
    ∀ bound ∈ basic.required float args, bound.Holds others.real := by
  obtain ⟨value, concrete, present, known, follows⟩ := met
  have field : value.number? = some (.finite (others.real basic.field.name)) :=
    number_of_real (NumericArgs.real_of_get present)
  rw [met_numbers _ field (denotes others concrete known)] at follows
  exact (met_iff_required fails others.real).mp follows

theorem scalar_revalued {limit : Limit} {concrete : Scalar}
    (known : limit.scalar args.args = some concrete) (assign : String → ℚ) :
    ∃ value, limit.scalar (args.revalued assign).args = some value := by
  cases limit with
  | number value => exact ⟨value, rfl⟩
  | field name =>
      have found : args.args.get name = some concrete := known
      refine ⟨.float (.finite (assign name)), ?_⟩
      rw [Limit.scalar, NumericArgs.get_revalued, found]
      rfl

/-- With values that meet the comparison the arguments follow the hint. -/
theorem hint_complete {basic : Comparison} {limit : Limit} {concrete : Scalar}
    (declared : ∀ name ∈ basic.names, (args.args.get name).isSome)
    (fails : basic.fails float args = true)
    (denotes : Denotes limit (basic.atom.limit float args.args))
    (known : limit.scalar args.args = some concrete) {assign : String → ℚ}
    (hold : ∀ bound ∈ basic.required float args, bound.Holds assign) :
    (basic.hint limit).Met (args.revalued assign).args := by
  obtain ⟨value, present⟩ := Option.isSome_iff_exists.mp (declared _ List.mem_cons_self)
  have revalued : (args.revalued assign).args.get basic.field.name =
      some (.float (.finite (assign basic.field.name))) := by
    rw [NumericArgs.get_revalued, present]
    rfl
  obtain ⟨other, read⟩ := scalar_revalued known assign
  have number := denotes (args.revalued assign) other read
  rw [limit_at_revalued fun name member => declared name (List.mem_cons_of_mem _ member)] at number
  refine ⟨_, other, revalued, read, ?_⟩
  rw [Comparison.hint, met_numbers _ rfl number]
  exact (met_iff_required fails assign).mpr hold

theorem repair_follows (float : String → PyFloat) {args : NumericArgs} {basic : Comparison}
    (declared : ∀ name ∈ basic.names, (args.args.get name).isSome)
    (readable : (args.args.get basic.atom.text).isNone → '.' ∈ basic.atom.text.toList ∨
      (unsigned basic.atom.text.toList).length ≤ maxStrDigits) :
    ∃ own, repairOf float args.args basic.simple = .ok own ∧
      Follows args own.toList
        (if basic.fails float args then basic.required float args else []) := by
  obtain ⟨value, present⟩ := Option.isSome_iff_exists.mp (declared _ List.mem_cons_self)
  obtain ⟨limit, concrete, read, known, denotes⟩ := read_limit_denotes float
    (fun name member => declared name (List.mem_cons_of_mem _ member)) readable
  have field := number_of_real (NumericArgs.real_of_get present)
  have decided : violated basic.operator value concrete = some true ↔
      basic.fails float args = true := by
    rw [violated_numbers basic.operator field (denotes args concrete known), Comparison.fails,
      decide_eq_true_eq]
  have ran : repairOf float args.args basic.simple = .ok
      (if violated basic.operator value concrete = some true then some (basic.hint limit)
      else none) := by
    rw [repairOf]
    simp only [Comparison.simple, present, read]
    change (if violated basic.operator value concrete = some true then _ else _) = _
    split <;> rfl
  refine ⟨_, ran, ?_⟩
  by_cases fails : basic.fails float args = true
  · rw [if_pos (decided.mpr fails), if_pos fails]
    constructor
    · exact fun others met => hint_sound fails denotes (met _ (List.mem_singleton_self _))
    · intro assign hold repair member
      rw [List.mem_singleton.mp member]
      exact hint_complete declared fails denotes known hold
  · rw [if_neg fun violated => fails (decided.mp violated), if_neg fails]
    exact follows_nil args

theorem repairs_follow (float : String → PyFloat) {args : NumericArgs} {comparisons : List Comparison}
    (declared : ∀ basic ∈ comparisons, ∀ name ∈ basic.names, (args.args.get name).isSome)
    (readable : ∀ listed ∈ found comparisons, (args.args.get listed.rawLimit).isNone →
      '.' ∈ listed.rawLimit.toList ∨ (unsigned listed.rawLimit.toList).length ≤ maxStrDigits) :
    ∃ repairs, repairsOf float args.args (found comparisons) = .ok repairs ∧
      Follows args repairs (failedBounds float args comparisons) := by
  induction comparisons with
  | nil => exact ⟨[], rfl, follows_nil args⟩
  | cons basic comparisons ih =>
      rw [List.forall_mem_cons] at declared
      by_cases legible : basic.legible = true
      · have read : found (basic :: comparisons) = basic.simple :: found comparisons := by
          rw [found, List.filter_cons_of_pos legible]
          rfl
        rw [read] at readable ⊢
        rw [List.forall_mem_cons] at readable
        obtain ⟨own, ran, ownFollows⟩ := repair_follows float declared.1 readable.1
        obtain ⟨later, ranLater, laterFollows⟩ := ih declared.2 readable.2
        have bounds : failedBounds float args (basic :: comparisons) =
            (if basic.fails float args then basic.required float args else []) ++
              failedBounds float args comparisons := by
          rw [failedBounds, List.filter_cons, legible, Bool.true_and]
          split
          · exact List.flatMap_cons
          · rfl
        rw [bounds]
        refine ⟨own.toList ++ later, ?_, follows_append ownFollows laterFollows⟩
        rw [repairsOf, ran, ranLater]
        rfl
      · have read : found (basic :: comparisons) = found comparisons := by
          rw [found, List.filter_cons_of_neg legible]
          rfl
        have bounds : failedBounds float args (basic :: comparisons) =
            failedBounds float args comparisons := by
          rw [Bool.not_eq_true] at legible
          rw [failedBounds, List.filter_cons_of_neg (by
            rw [legible, Bool.false_and]
            exact Bool.false_ne_true)]
          rfl
        rw [read] at readable ⊢
        rw [bounds]
        exact ih declared.2 readable

/-- What `_derive_repair_constraints` returns on a policy. -/
theorem derived_follow (float : String → PyFloat) {args : NumericArgs} {assertions : List Policy}
    {invariants : String} (spelled : SpellsAssertions assertions invariants.toList)
    (declared : (Policy.and assertions).Declared args.args)
    (readable : Readable invariants args.args) :
    ∃ repairs, deriveRepairConstraints float invariants args.args = .ok repairs ∧
      Follows args repairs (failedBounds float args (Policy.listed assertions)) := by
  rw [Readable, simple_comparisons_eq spelled] at readable
  rw [deriveRepairConstraints, simple_comparisons_eq spelled]
  refine repairs_follow float declared ?_
  intro listed member foreign
  obtain ⟨basic, legible, rfl⟩ := List.mem_map.mp member
  have own := declared basic (List.mem_filter.mp legible).1 basic.field.name List.mem_cons_self
  exact (readable _ member own foreign).2

end Hints

section Conjunctions

/-- Built from comparisons with `and` alone. -/
inductive Conjunctive : Policy → Prop
  | comparison (basic : Comparison) : Conjunctive (.comparison basic)
  | and {policies : List Policy} (each : ∀ item ∈ policies, Conjunctive item) :
      Conjunctive (.and policies)

theorem conjunctive_holds {policy : Policy} {assign : String → ℚ} (conjunctive : Conjunctive policy)
    (holds : policy.holds assign = true) : ∀ basic ∈ policy.comparisons, basic.holds assign = true := by
  induction conjunctive with
  | comparison basic =>
      intro other member
      rw [List.mem_singleton.mp member]
      exact holds
  | and each ih =>
      intro basic member
      obtain ⟨item, listed, own⟩ := mem_listed_policy.mp member
      rw [Policy.holds, all_hold_iff] at holds
      exact ih item listed (holds item listed) basic own

variable {float : String → PyFloat} {args : NumericArgs}

/-- The numeral is not the name of an argument, and `float` does not round it. -/
def Comparison.Exact (float : String → PyFloat) (args : NumericArgs) (basic : Comparison) : Prop :=
  ∀ number, basic.atom = .numeral number → args.args.get basic.atom.text = none ∧
    (number.fraction ≠ [] → float basic.atom.text = .finite number.value)

theorem required_exact {basic : Comparison} (exact : basic.Exact float args)
    (declared : ∀ name ∈ basic.names, (args.args.get name).isSome) :
    basic.required float args =
      basic.operator.bounds (.name basic.field.name) basic.atom.term := by
  rw [Comparison.required]
  cases read : basic.atom with
  | argument symbol =>
      have present : (args.args.get symbol.name).isSome := by
        refine declared symbol.name (List.mem_cons_of_mem _ ?_)
        rw [read]
        exact List.mem_singleton_self _
      have limit : (Atom.argument symbol).limit float args.args = .name symbol.name := if_pos present
      rw [limit]
      rfl
  | numeral number =>
      obtain ⟨foreign, rounded⟩ := exact number read
      rw [read] at foreign rounded
      have limit : (Atom.numeral number).limit float args.args = .value (.finite number.value) := by
        rw [Atom.limit, foreign, if_neg (by simp)]
        split
        · rfl
        · rename_i fraction
          rw [rounded fraction]
      rw [limit]
      rfl

theorem conjunctive_hints_consistent {assertions : List Policy} {invariants : String}
    (conjunctive : ∀ item ∈ assertions, Conjunctive item)
    (spelled : SpellsAssertions assertions invariants.toList)
    (declared : (Policy.and assertions).Declared args.args)
    (readable : Readable invariants args.args)
    (exact : ∀ basic ∈ Policy.listed assertions, basic.Exact float args) :
    HintsConsistent float (.and assertions) invariants args := by
  rintro ⟨met, -, holds⟩
  obtain ⟨repairs, derived, follows⟩ := derived_follow float spelled declared readable
  refine ⟨repairs, derived, args.revalued met.real, declared_revalued declared _, ?_, ?_⟩
  · rw [holds_revalued declared]
    exact holds
  · apply follows.complete met.real
    intro bound member
    obtain ⟨basic, failing, required⟩ := List.mem_flatMap.mp member
    have listed := (List.mem_filter.mp failing).1
    rw [required_exact (exact basic listed) (declared basic listed)] at required
    have every : ∀ bound ∈ basic.operator.bounds (.name basic.field.name) basic.atom.term,
        bound.Holds met.real :=
      (bounds_hold_iff _ _ _).mpr (conjunctive_holds (.and conjunctive) holds basic listed)
    exact every bound required

end Conjunctions

/-- The hints are consistent with the policy exactly when the policy has no consistent
branch, or every limit can be read and some branch is consistent with the
comparisons that the arguments fail. -/
theorem hints_consistent_iff (float : String → PyFloat) (assertions : List Policy)
    (invariants : String) (args : NumericArgs)
    (spelled : SpellsAssertions assertions invariants.toList)
    (declared : (Policy.and assertions).Declared args.args) :
    HintsConsistent float (.and assertions) invariants args ↔
      (∀ branch ∈ (Policy.and assertions).branches true, Contradictory branch) ∨
        (Readable invariants args.args ∧ ∃ branch ∈ (Policy.and assertions).branches true,
          ¬ Contradictory (branch ++ failedBounds float args (Policy.listed assertions))) := by
  constructor
  · intro consistent
    by_cases satisfiable : (Policy.and assertions).Satisfiable
    · right
      obtain ⟨repairs, derived, repaired, -, holds, met⟩ := consistent satisfiable
      have readable := (derive_ok_iff float invariants args.args).mp ⟨repairs, derived⟩
      obtain ⟨repairs', derived', follows⟩ := derived_follow float spelled declared readable
      obtain rfl : repairs = repairs' := Except.ok.inj (derived.symm.trans derived')
      obtain ⟨branch, member, hold⟩ := (meets_branches _ true).mpr holds
      refine ⟨readable, branch, member, (satisfiable_iff _).mp ⟨repaired.real, ?_⟩⟩
      exact List.forall_mem_append.mpr ⟨hold, follows.sound repaired met⟩
    · left
      rw [satisfiable_iff_branch declared] at satisfiable
      push Not at satisfiable
      exact satisfiable
  · rintro (none | ⟨readable, branch, member, consistent⟩) satisfiable
    · obtain ⟨branch, member, consistent⟩ := (satisfiable_iff_branch declared).mp satisfiable
      exact absurd (none branch member) consistent
    · obtain ⟨assign, hold⟩ := (satisfiable_iff _).mpr consistent
      rw [List.forall_mem_append] at hold
      obtain ⟨repairs, derived, follows⟩ := derived_follow float spelled declared readable
      refine ⟨repairs, derived, args.revalued assign, declared_revalued declared assign, ?_,
        follows.complete assign hold.2⟩
      rw [holds_revalued declared]
      exact (meets_branches _ true).mp ⟨branch, member, hold.1⟩

section Samples

theorem white_space : White [' '] ∧ [' '] ≠ [] := by
  refine ⟨?_, List.cons_ne_nil _ _⟩
  intro c member
  rw [List.mem_singleton.mp member]
  rfl

theorem white_nothing : White [] := nofun

theorem spells_plain (basic : Comparison) :
    (Policy.comparison basic).Spells ('(' :: basic.spelled [' '] [' ']) :=
  ⟨[' '], [' '], white_space, white_space, rfl⟩

theorem spells_two {left right : Policy} {own other : List Char} (first : left.Spells own)
    (second : right.Spells other) :
    Policy.SpellsEach [left, right] (' ' :: (own ++ ' ' :: (other ++ []))) :=
  ⟨[' '], own, _, white_space.1, first, ⟨[' '], other, [], white_space.1, second, white_nothing,
    rfl⟩, rfl⟩

theorem spells_alone {policy : Policy} {own : List Char} (spelled : policy.Spells own) :
    SpellsAssertions [policy] (bracketed "assert" (' ' :: (own ++ []))) :=
  ⟨[], _, [], white_nothing, ⟨[' '], own, [], white_space.1, spelled, white_nothing, rfl⟩,
    white_nothing, (List.append_nil _).symm⟩

def amount : Symbol :=
  { name := "amount", token := is_token_of (by decide) (by decide), plain := by decide }

def balance : Symbol :=
  { name := "account_balance", token := is_token_of (by decide) (by decide), plain := by decide }

def digit (digit : Fin 10) : Numeral :=
  { negative := false, whole := [digit], fraction := [], some := List.cons_ne_nil _ _ }

/-- `(and (>= amount 0) (<= amount account_balance))`. -/
def transferPolicy : Policy :=
  .and [.comparison ⟨.ge, amount, .numeral (digit 0)⟩,
    .comparison ⟨.le, amount, .argument balance⟩]

def transferArgs : NumericArgs where
  args := { rows := [("amount", .int 1500), ("account_balance", .int 900)], distinct := by decide }
  numeric := by
    intro row member
    rcases List.mem_pair.mp member with rfl | rfl
    · exact ⟨1500, rfl⟩
    · exact ⟨900, rfl⟩

/-- `(or (= amount 1) (= amount 2))`. -/
def choicePolicy : Policy :=
  .or [.comparison ⟨.eq, amount, .numeral (digit 1)⟩,
    .comparison ⟨.eq, amount, .numeral (digit 2)⟩]

def choiceArgs : NumericArgs where
  args := { rows := [("amount", .int 3)], distinct := by decide }
  numeric := by
    intro row member
    exact ⟨3, by rw [List.mem_singleton.mp member]; rfl⟩

theorem digit_value (number : Fin 10) : (digit number).value = number.val := by
  simp [digit, Numeral.value, Numeral.decimal]

theorem transfer_hints_consistent :
    HintsConsistent (fun _ => .nan) (.and [transferPolicy])
      "(assert (and (>= amount 0) (<= amount account_balance)))" transferArgs := by
  refine (hints_consistent_iff (fun _ => .nan) [transferPolicy] _ transferArgs ?_ ?_).mpr
    (.inr ⟨?_, [⟨.value (digit 0).value, .name "amount", false⟩,
      ⟨.name "amount", .name "account_balance", false⟩], List.mem_singleton_self _,
      (satisfiable_iff _).mp ⟨fun _ => 0, ?_⟩⟩)
  · have spelled : transferPolicy.Spells (bracketed "and" _) :=
      ⟨_, spells_two (spells_plain _) (spells_plain _), rfl⟩
    exact spells_alone spelled
  · intro basic listed name member
    rcases List.mem_pair.mp listed with rfl | rfl
    · rw [List.mem_singleton.mp member]
      rfl
    · rcases List.mem_pair.mp member with rfl | rfl <;> rfl
  · have read : simpleComparisons "(assert (and (>= amount 0) (<= amount account_balance)))" =
        [{ operator := .ge, field := "amount", rawLimit := "0" },
          { operator := .le, field := "amount", rawLimit := "account_balance" }] := by decide
    intro listed member own foreign
    rw [read] at member
    rcases List.mem_pair.mp member with rfl | rfl
    · exact ⟨by decide, .inr (by decide)⟩
    · cases foreign
  · have least : (digit 0).value ≤ 0 := (digit_value 0).le
    have capped : (0 : ℚ) ≤ 0 := le_refl 0
    rw [List.forall_mem_append]
    constructor
    · intro bound member
      rcases List.mem_pair.mp member with rfl | rfl
      · exact least
      · exact capped
    · intro bound member
      obtain ⟨basic, failing, required⟩ := List.mem_flatMap.mp member
      rcases List.mem_pair.mp (List.mem_filter.mp failing).1 with rfl | rfl
      · rw [List.mem_singleton.mp required]
        exact least
      · rw [List.mem_singleton.mp required]
        exact capped

theorem choice_holds (assign : String → ℚ) :
    (Policy.and [choicePolicy]).holds assign =
      (decide (assign "amount" = 1) || decide (assign "amount" = 2)) := by
  simp [choicePolicy, Policy.holds, Policy.allHold, Policy.anyHolds, Comparison.holds,
    Operator.holds, Atom.term, Term.at, digit_value, amount]

theorem choice_hints_contradict :
    SpellsAssertions [choicePolicy] "(assert (or (= amount 1) (= amount 2)))".toList ∧
    (Policy.and [choicePolicy]).Declared choiceArgs.args ∧
    (Policy.and [choicePolicy]).holds choiceArgs.real = false ∧
    ∀ float, ¬ HintsConsistent float (.and [choicePolicy])
      "(assert (or (= amount 1) (= amount 2)))" choiceArgs := by
  have declared : (Policy.and [choicePolicy]).Declared choiceArgs.args := by
    intro basic listed name member
    rcases List.mem_pair.mp listed with rfl | rfl
    · rw [List.mem_singleton.mp member]
      rfl
    · rw [List.mem_singleton.mp member]
      rfl
  refine ⟨?_, declared, ?_, ?_⟩
  · have spelled : choicePolicy.Spells (bracketed "or" _) :=
      ⟨_, spells_two (spells_plain _) (spells_plain _), rfl⟩
    exact spells_alone spelled
  · rw [choice_holds]
    decide
  · intro float consistent
    have satisfiable : (Policy.and [choicePolicy]).Satisfiable := by
      refine ⟨choiceArgs.revalued fun _ => 1, declared_revalued declared _, ?_⟩
      rw [holds_revalued declared, choice_holds]
      decide
    obtain ⟨repairs, derived, repaired, -, -, met⟩ := consistent satisfiable
    have hints : deriveRepairConstraints float "(assert (or (= amount 1) (= amount 2)))"
        choiceArgs.args = .ok [
          { field := "amount", constraint := .const, value := .number (.int 1),
            predicate := "amount = 1" },
          { field := "amount", constraint := .const, value := .number (.int 2),
            predicate := "amount = 2" }] := by rfl
    obtain rfl := Except.ok.inj (hints.symm.trans derived)
    obtain ⟨value, limit, present, known, equal⟩ := met _ List.mem_cons_self
    obtain ⟨value', limit', present', known', equal'⟩ :=
      met _ (List.mem_cons_of_mem _ (List.mem_singleton_self _))
    cases known
    cases known'
    obtain rfl : value = value' := Option.some.inj (present.symm.trans present')
    have number := number_of_real (NumericArgs.real_of_get present)
    rw [Keyword.met, equals_floats number rfl] at equal equal'
    have one : repaired.real "amount" = 1 := PyFloat.finite.inj (of_decide_eq_true equal)
    have two : repaired.real "amount" = 2 := PyFloat.finite.inj (of_decide_eq_true equal')
    rw [one] at two
    exact absurd two (by decide)

end Samples

end SagaMind.Verifier
