import SagaMind.Contracts.Dsl
import SagaMind.Foundation.Scanning
import SagaMind.Sandbox.Policy

/-!
# The verifier of SMT policies

`verify_detailed` and `_derive_repair_constraints` of `src/verifier/z3_prover.py`.
The solver is a parameter: it takes the arguments, parses a policy and says
whether its negation is satisfiable. So is `float`, on the decimals that the
pattern lets through.
-/

namespace SagaMind.Verifier

open KeyedTable Scanning
open Sandbox (PyFloat VerificationStatus Arguments)

set_option autoImplicit false

/-- A value that `_supported_scalar` lets through. -/
inductive Scalar where
  | bool (flag : Bool)
  | int (number : Int)
  | float (number : PyFloat)
  | str (text : String)
  deriving DecidableEq

/-- `action_args` without an unsupported value. -/
abbrev ActionArgs : Type := Table (Prod.fst : String × Scalar → String)

def ActionArgs.get (args : ActionArgs) (name : String) : Option Scalar :=
  (args.find? name).map Prod.snd

section Comparisons

namespace Scalar

/-- What Python compares as a number: a `bool` is 0 or 1. -/
def number? : Scalar → Option PyFloat
  | .bool flag => some (.finite (if flag then 1 else 0))
  | .int number => some (.finite number)
  | .float number => some number
  | .str _ => none

/-- `left < right`, unless it is a `TypeError`. -/
def lt : Scalar → Scalar → Option Bool
  | .str left, .str right => some (decide (left < right))
  | left, right =>
      match left.number?, right.number? with
      | some left, some right => some (left.lt right)
      | _, _ => none

/-- `left == right`. -/
def equals : Scalar → Scalar → Bool
  | .str left, .str right => decide (left = right)
  | left, right =>
      match left.number?, right.number? with
      | some left, some right => left.eq right
      | _, _ => false

/-- `left <= right`, unless it is a `TypeError`. -/
def le (left right : Scalar) : Option Bool := (left.lt right).map (· || left.equals right)

end Scalar

inductive Operator where
  | le
  | lt
  | ge
  | gt
  | eq
  deriving DecidableEq

def Operator.symbol : Operator → String
  | .le => "<="
  | .lt => "<"
  | .ge => ">="
  | .gt => ">"
  | .eq => "="

/-- The entry of the dictionary for this operator. All five are computed, so a
`TypeError` of one of them is one of the whole. -/
def violated (operator : Operator) (value limit : Scalar) : Option Bool := do
  let above ← limit.lt value
  let notBelow ← limit.le value
  let below ← value.lt limit
  let notAbove ← value.le limit
  return match operator with
    | .le => above
    | .lt => notBelow
    | .ge => below
    | .gt => notAbove
    | .eq => !value.equals limit

end Comparisons

section Pattern

/-- The zeros of the decimal digits that `\d` matches; nine digits follow each. -/
def decimalZeros : List Nat :=
  [0x30, 0x660, 0x6f0, 0x7c0, 0x966, 0x9e6, 0xa66, 0xae6, 0xb66, 0xbe6, 0xc66, 0xce6, 0xd66, 0xde6,
    0xe50, 0xed0, 0xf20, 0x1040, 0x1090, 0x17e0, 0x1810, 0x1946, 0x19d0, 0x1a80, 0x1a90, 0x1b50,
    0x1bb0, 0x1c40, 0x1c50, 0xa620, 0xa8d0, 0xa900, 0xa9d0, 0xa9f0, 0xaa50, 0xabf0, 0xff10, 0x104a0,
    0x10d30, 0x11066, 0x110f0, 0x11136, 0x111d0, 0x112f0, 0x11450, 0x114d0, 0x11650, 0x116c0,
    0x11730, 0x118e0, 0x11950, 0x11c50, 0x11d50, 0x11da0, 0x16a60, 0x16ac0, 0x16b50, 0x1d7ce,
    0x1d7d8, 0x1d7e2, 0x1d7ec, 0x1d7f6, 0x1e140, 0x1e2f0, 0x1e950, 0x1fbf0]

def digitValue (c : Char) : Option Nat :=
  (decimalZeros.find? fun first => first ≤ c.toNat ∧ c.toNat ≤ first + 9).map (c.toNat - ·)

def isDigit (c : Char) : Bool := (digitValue c).isSome

/-- `[A-Za-z_]`. -/
def nameStart (c : Char) : Bool := c.isAlpha || c = '_'

/-- `[A-Za-z0-9_]`. -/
def nameRest (c : Char) : Bool := c.isAlphanum || c = '_'

theorem letter_range {c : Char} (letter : c.isAlpha = true) : 65 ≤ c.toNat ∧ c.toNat ≤ 122 := by
  change (decide (65 ≤ c.val ∧ c.val ≤ 90) ||
    (decide (97 ≤ c.val) && decide (c.val ≤ 122))) = true at letter
  simp only [Bool.or_eq_true, Bool.and_eq_true, decide_eq_true_eq, UInt32.le_iff_toNat_le] at letter
  change 65 ≤ c.val.toNat ∧ c.val.toNat ≤ 122
  rcases letter with ⟨low, high⟩ | ⟨low, high⟩
  · exact ⟨low, high.trans (by decide)⟩
  · exact ⟨le_trans (by decide) low, high⟩

theorem name_start_range {c : Char} (start : nameStart c = true) : 65 ≤ c.toNat ∧ c.toNat ≤ 122 := by
  rw [nameStart, Bool.or_eq_true, decide_eq_true_eq] at start
  rcases start with letter | rfl
  · exact letter_range letter
  · decide

theorem name_rest_range {c : Char} (rest : nameRest c = true) : 48 ≤ c.toNat ∧ c.toNat ≤ 122 := by
  rw [nameRest, Bool.or_eq_true, Char.isAlphanum, Bool.or_eq_true, decide_eq_true_eq] at rest
  rcases rest with (letter | digit) | rfl
  · have := letter_range letter
    omega
  · rw [Char.isDigit, Bool.and_eq_true, decide_eq_true_eq, decide_eq_true_eq,
      ge_iff_le, UInt32.le_iff_toNat_le, UInt32.le_iff_toNat_le] at digit
    exact ⟨digit.1, digit.2.trans (by decide)⟩
  · decide

theorem name_start_not_digit {c : Char} (start : nameStart c = true) : isDigit c = false := by
  have letter := name_start_range start
  have outside : ∀ first ∈ decimalZeros, first + 9 < 65 ∨ 122 < first := by decide
  rw [isDigit, digitValue, Option.isSome_map, Option.isSome_eq_false_iff, Option.isNone_iff_eq_none,
    List.find?_eq_none]
  intro first member within
  rw [decide_eq_true_eq] at within
  have := outside first member
  omega

theorem digit_first {c : Char} (digit : isDigit c = true) : nameStart c = false ∧ c ≠ '-' := by
  constructor
  · by_contra start
    rw [Bool.not_eq_false] at start
    rw [name_start_not_digit start] at digit
    cases digit
  · rintro rfl
    exact absurd digit (by decide)

def literal : List Char → List Char → Option (List Char)
  | [], text => some text
  | _ :: _, [] => none
  | c :: symbol, d :: text => if c = d then literal symbol text else none

/-- `(<=|<|>=|>|=)`. A white space follows, so no shorter operator can match where
a longer one does. -/
def readOperator (text : List Char) : Option (Operator × List Char) :=
  [Operator.le, .lt, .ge, .gt, .eq].findSome? fun operator =>
    (literal operator.symbol.toList text).map fun rest => (operator, rest)

/-- `\s+`. -/
def readSpaces (text : List Char) : Option (List Char) :=
  (run Contracts.isSpace text).map Prod.snd

/-- `[A-Za-z_][A-Za-z0-9_]*`. -/
def readName : List Char → Option (List Char × List Char)
  | [] => none
  | c :: text =>
      if nameStart c then some (c :: text.takeWhile nameRest, text.dropWhile nameRest) else none

/-- `(?:\.\d+)?`. -/
def readFraction : List Char → List Char × List Char
  | '.' :: text =>
      match run isDigit text with
      | some (digits, rest) => ('.' :: digits, rest)
      | none => ([], '.' :: text)
  | text => ([], text)

/-- `\d+(?:\.\d+)?`. -/
def readUnsigned (text : List Char) : Option (List Char × List Char) :=
  (run isDigit text).map fun whole =>
    (whole.1 ++ (readFraction whole.2).1, (readFraction whole.2).2)

/-- `-?\d+(?:\.\d+)?`. -/
def readNumber : List Char → Option (List Char × List Char)
  | '-' :: text => (readUnsigned text).map fun number => ('-' :: number.1, number.2)
  | text => readUnsigned text

def readAtom (text : List Char) : Option (List Char × List Char) :=
  (readName text).or (readNumber text)

structure SimpleComparison where
  operator : Operator
  field : String
  rawLimit : String
  deriving DecidableEq

/-- One match of `_SIMPLE_COMPARISON` at the front of a text. -/
def readComparison (text : List Char) : Option (SimpleComparison × List Char) := do
  let text ← literal ['('] text
  let (operator, text) ← readOperator text
  let text ← readSpaces text
  let (field, text) ← readName text
  let text ← readSpaces text
  let (rawLimit, text) ← readAtom text
  let text ← literal [')'] text
  return ({ operator, field := String.ofList field, rawLimit := String.ofList rawLimit }, text)

/-- `_SIMPLE_COMPARISON.findall`. -/
def simpleComparisons (invariants : String) : List SimpleComparison :=
  findall readComparison invariants.toList

end Pattern

section Numbers

/-- `sys.get_int_max_str_digits()`. -/
def maxStrDigits : Nat := 4300

def unsigned : List Char → List Char
  | '-' :: digits => digits
  | digits => digits

theorem unsigned_plain {first : Char} (plain : first ≠ '-') (later : List Char) :
    unsigned (first :: later) = first :: later := by
  unfold unsigned
  split
  · rename_i equal
    exact absurd (List.cons.inj equal).1 plain
  · rfl

def natural (digits : List Char) : Nat :=
  digits.foldl (fun value c => 10 * value + (digitValue c).getD 0) 0

/-- `int(text)` of a name or of a number without a fraction; the text of its
`ValueError`. -/
def toInt (text : String) : Except String Int :=
  let digits := unsigned text.toList
  if digits = [] ∨ digits.all isDigit = false then
    .error ("invalid literal for int() with base 10: '" ++ text ++ "'")
  else if maxStrDigits < digits.length then
    .error ("Exceeds the limit (4300 digits) for integer string conversion: value has " ++
      toString digits.length ++
      " digits; use sys.set_int_max_str_digits() to increase the limit")
  else if digits = text.toList then .ok (natural digits)
  else .ok (-natural digits)

end Numbers

inductive Keyword where
  | maximum
  | exclusiveMaximum
  | minimum
  | exclusiveMinimum
  | const
  deriving DecidableEq

def operatorNames : Operator → Keyword
  | .le => .maximum
  | .lt => .exclusiveMaximum
  | .ge => .minimum
  | .gt => .exclusiveMinimum
  | .eq => .const

inductive Limit where
  /-- `{"field": name}`. -/
  | field (name : String)
  | number (value : Scalar)
  deriving DecidableEq

structure RepairConstraint where
  field : String
  constraint : Keyword
  value : Limit
  predicate : String
  deriving DecidableEq

section Repairs

/-- `limit` and `concrete_limit`. -/
def readLimit (float : String → PyFloat) (args : ActionArgs) (rawLimit : String) :
    Except String (Limit × Scalar) :=
  match args.get rawLimit with
  | some concrete => .ok (.field rawLimit, concrete)
  | none =>
      if '.' ∈ rawLimit.toList then
        .ok (.number (.float (float rawLimit)), .float (float rawLimit))
      else (toInt rawLimit).map fun number => (.number (.int number), .int number)

def repairOf (float : String → PyFloat) (args : ActionArgs) (found : SimpleComparison) :
    Except String (Option RepairConstraint) :=
  match args.get found.field with
  | none => .ok none
  | some value => do
      let (limit, concreteLimit) ← readLimit float args found.rawLimit
      if violated found.operator value concreteLimit = some true then
        return some {
          field := found.field
          constraint := operatorNames found.operator
          value := limit
          predicate := found.field ++ " " ++ found.operator.symbol ++ " " ++ found.rawLimit }
      else return none

/-- The loop of `_derive_repair_constraints`. -/
def repairsOf (float : String → PyFloat) (args : ActionArgs) :
    List SimpleComparison → Except String (List RepairConstraint)
  | [] => .ok []
  | found :: rest => do
      let own ← repairOf float args found
      let later ← repairsOf float args rest
      return own.toList ++ later

/-- `_derive_repair_constraints`, or the text of a `ValueError`. -/
def deriveRepairConstraints (float : String → PyFloat) (invariants : String) (args : ActionArgs) :
    Except String (List RepairConstraint) :=
  repairsOf float args (simpleComparisons invariants)

end Repairs

inductive Outcome where
  | sat
  | unsat
  | unknown
  deriving DecidableEq

/-- The Python bindings of Z3. -/
structure Solver where
  /-- A parsed assertion. -/
  Formula : Type
  /-- Declare a constant for each argument and fix its value, or raise. -/
  constrain : ActionArgs → Except String Unit
  /-- `parse_smt2_string`, with the declarations of the arguments. -/
  parse : String → ActionArgs → Except String (List Formula)
  /-- `check` with the negation of all assertions added. -/
  refute : ActionArgs → List Formula → Outcome
  /-- White space holds no assertion. -/
  blank_parses : ∀ text args, Contracts.blank text = true → parse text args = .ok []

structure PolicyVerificationResult where
  allowed : Bool
  status : VerificationStatus
  explanation : String
  violatedProperty : Option String := none
  counterexample : Option ActionArgs := none
  repairConstraints : List RepairConstraint := []

/-- What leaves `verify_detailed` as an exception. -/
inductive Raised where
  | valueError (message : String)
  | z3Exception (message : String)
  deriving DecidableEq

/-- The verifier, with the bindings if they could be imported. -/
structure Z3Verifier where
  solver : Option Solver
  /-- `settings.allowed_workspace_root`, resolved. -/
  root : FileTree.Path

namespace Z3Verifier

def supportedScalar : Sandbox.Value → Option Scalar
  | .bool flag => some (.bool flag)
  | .int number => some (.int number)
  | .float number => some (.float number)
  | .str text => some (.str text)
  | _ => none

def supportedArgs (arguments : Arguments) : ActionArgs where
  rows := arguments.rows.filterMap fun row => (supportedScalar row.2).map fun value => (row.1, value)
  distinct := by
    have names : (arguments.rows.filterMap fun row =>
        (supportedScalar row.2).map fun value => (row.1, value)).map Prod.fst =
          (arguments.rows.filter fun row => (supportedScalar row.2).isSome).map Prod.fst := by
      induction arguments.rows with
      | nil => rfl
      | cons row rest ih =>
          cases known : supportedScalar row.2 <;> simp [known, ih]
    rw [names]
    exact arguments.distinct.sublist (List.filter_sublist.map Prod.fst)

def unsupported (arguments : Arguments) : List String :=
  ((arguments.rows.filter fun row => (supportedScalar row.2).isNone).map Prod.fst).mergeSort
    fun left right => decide (left ≤ right)

def typeName : Scalar → String
  | .bool _ => "bool"
  | .int _ => "int"
  | .float _ => "float"
  | .str _ => "str"

def fallbackVerify (self : Z3Verifier) (args : ActionArgs) : Except Raised (Bool × String) :=
  let passed := (true, "Semantic validation succeeded (SMT solver unavailable).")
  match args.get "path" with
  | none => .ok passed
  | some (.str path) =>
      match Sandbox.containPath self.root path with
      | .ok _ => .ok passed
      | .error (.security message) => .ok (false, "Semantic Guard Fail: " ++ message)
      | .error (.value _) => .error (.valueError "embedded null byte")
  | some other =>
      .ok (false, "Semantic Guard Fail: expected str, bytes or os.PathLike object, not " ++
        typeName other)

def z3VerifyDetailed (float : String → PyFloat) (solver : Solver) (args : ActionArgs)
    (invariants : String) : Except Raised PolicyVerificationResult :=
  match solver.constrain args with
  | .error message => .error (.z3Exception message)
  | .ok () =>
      match solver.parse invariants args with
      | .error message => .ok {
          allowed := false
          status := .invalid
          explanation := "Policy is invalid SMT-LIB2 and was rejected: " ++ message
          violatedProperty := some invariants }
      | .ok [] => .ok {
          allowed := false
          status := .invalid
          explanation := "Policy contains no assertions; rejected."
          violatedProperty := some invariants }
      | .ok (first :: rest) =>
          match solver.refute args (first :: rest) with
          | .unsat => .ok {
              allowed := true
              status := .safe
              explanation := "Verification successful." }
          | .sat =>
              match deriveRepairConstraints float invariants args with
              | .error message => .error (.valueError message)
              | .ok repairs => .ok {
                  allowed := false
                  status := .rejected
                  explanation := "Safety constraint violation."
                  violatedProperty := some invariants
                  counterexample := some args
                  repairConstraints := repairs }
          | .unknown => .ok {
              allowed := false
              status := .unknown
              explanation := "SMT solver returned unknown or timed out; rejected."
              violatedProperty := some invariants }

def verifyDetailed (self : Z3Verifier) (float : String → PyFloat) (arguments : Arguments)
    (invariants : String) : Except Raised PolicyVerificationResult :=
  if unsupported arguments ≠ [] then
    .ok {
      allowed := false
      status := .unsupported
      explanation := "Unsupported action argument types for: " ++
        ", ".intercalate (unsupported arguments) ++ "; rejected." }
  else if Contracts.blank invariants then
    (self.fallbackVerify (supportedArgs arguments)).map fun answer => {
      allowed := answer.1
      status := if answer.1 then .safe else .rejected
      explanation := answer.2 }
  else
    match self.solver with
    | none => .ok {
        allowed := false
        status := .unknown
        explanation := "SMT solver is unavailable; non-empty policy rejected without a proof."
        violatedProperty := some invariants }
    | some solver => z3VerifyDetailed float solver (supportedArgs arguments) invariants

end Z3Verifier

end SagaMind.Verifier
