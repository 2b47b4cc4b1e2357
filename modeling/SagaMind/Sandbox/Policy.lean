import Mathlib.Data.Rat.Defs
import Mathlib.Algebra.Order.Ring.Unbundled.Rat
import SagaMind.Foundation.FileTree
import SagaMind.Foundation.KeyedTable

/-!
# Typed policies for tool arguments

`contain_path` of `src/security.py` in a workspace without symbolic links, and
the policies of `src/policy.py`. Arguments are what JSON can carry, with the
numbers that are none. An embedded null character in a path is a `ValueError`
that nobody catches.
-/

namespace SagaMind.Sandbox

open FileTree KeyedTable

set_option autoImplicit false

/-- A Python `float`. -/
inductive PyFloat where
  | nan
  | infinite (negative : Bool)
  | finite (value : ℚ)
  deriving DecidableEq

inductive Value where
  /-- `None`. -/
  | null
  | str (text : String)
  | bool (flag : Bool)
  | int (number : Int)
  | float (number : PyFloat)
  | list (items : List Value)
  | dict (entries : List (String × Value))

/-- `dict[str, Any]`, in the order of insertion. -/
abbrev Arguments : Type := Table (Prod.fst : String × Value → String)

def Arguments.get (arguments : Arguments) (name : String) : Option Value :=
  (arguments.find? name).map Prod.snd

/-- What the code takes from Python's library, here for any such functions. -/
structure Library where
  /-- `hashlib.sha256(data).hexdigest()`. -/
  sha256 : ByteArray → String
  sha256_length : ∀ data, (sha256 data).length = 64
  /-- `str` of a value that is not a string. -/
  str : Value → String
  repr : String → String
  fnmatchcase : String → String → Bool
  /-- The class and the text of an `OSError`. -/
  errorClass : Errno → String
  strerror : Errno → String
  /-- The text of a `UnicodeDecodeError`. -/
  decodeError : ByteArray → String

section Containment

/-- The `ValueError` that nobody catches. -/
inductive ValueError where
  | nullCharacter
  deriving DecidableEq

inductive PathError where
  /-- `PathSecurityError`. -/
  | security (message : String)
  | value (error : ValueError)
  deriving DecidableEq

/-- `contain_path` below the resolved workspace root. -/
def containPath (root : Path) (path : String) : Except PathError Path :=
  match realpath root path with
  | none => .error (.value .nullCharacter)
  | some resolved =>
      if root.contains resolved then .ok resolved
      else .error (.security ("Path traversal blocked: '" ++ path ++ "' resolves to '" ++
        resolved.text ++ "', outside authorized workspace '" ++ root.text ++ "'."))

theorem contain_path_within {root resolved : Path} {path : String}
    (contained : containPath root path = .ok resolved) : root.contains resolved = true := by
  rw [containPath] at contained
  split at contained
  · cases contained
  · split at contained
    · rename_i within
      cases contained
      exact within
    · cases contained

theorem contain_path_text {root resolved : Path} {path : String}
    (contained : containPath root path = .ok resolved) :
    containPath root resolved.text = .ok resolved := by
  rw [containPath, realpath_text]
  exact if_pos (contain_path_within contained)

end Containment

inductive ValueKind where
  | string
  | integer
  | number
  | boolean
  | path
  deriving DecidableEq

def ValueKind.value : ValueKind → String
  | .string => "string"
  | .integer => "integer"
  | .number => "number"
  | .boolean => "boolean"
  | .path => "path"

namespace PyFloat

/-- `<` on floats; nothing is below or above a NaN. -/
def lt : PyFloat → PyFloat → Bool
  | nan, _ => false
  | _, nan => false
  | infinite negative, infinite other => negative && !other
  | infinite negative, finite _ => negative
  | finite _, infinite negative => !negative
  | finite value, finite other => decide (value < other)

/-- `==` on floats. -/
def eq : PyFloat → PyFloat → Bool
  | nan, _ => false
  | _, nan => false
  | left, right => decide (left = right)

end PyFloat

namespace Value

/-- What Python computes with; a `bool` counts as zero or one. -/
def number? : Value → Option PyFloat
  | .bool flag => some (.finite (if flag then 1 else 0))
  | .int number => some (.finite number)
  | .float number => some number
  | _ => none

/-- `len` of a string. -/
def length? : Value → Option Nat
  | .str text => some text.length
  | _ => none

/-- `==` of two scalars. -/
def equals : Value → Value → Bool
  | .str left, .str right => decide (left = right)
  | left, right =>
      match left.number?, right.number? with
      | some left, some right => left.eq right
      | _, _ => false

/-- `bool(value)`. -/
def truthy : Option Value → Bool
  | some (.str text) => decide (text ≠ "")
  | some (.bool flag) => flag
  | some (.int number) => decide (number ≠ 0)
  | some (.float number) => decide (number ≠ .finite 0)
  | some (.list items) => !items.isEmpty
  | some (.dict entries) => !entries.isEmpty
  | some .null => false
  | none => false

/-- `value is not None`, also for a key that is not there. -/
def given : Option Value → Bool
  | some .null => false
  | some _ => true
  | none => false

end Value

section Equality

mutual

def Value.same : Value → Value → Bool
  | .null, .null => true
  | .str left, .str right => decide (left = right)
  | .bool left, .bool right => decide (left = right)
  | .int left, .int right => decide (left = right)
  | .float left, .float right => decide (left = right)
  | .list left, .list right => sameItems left right
  | .dict left, .dict right => sameEntries left right
  | _, _ => false

def sameItems : List Value → List Value → Bool
  | [], [] => true
  | left :: lefts, right :: rights => left.same right && sameItems lefts rights
  | _, _ => false

def sameEntries : List (String × Value) → List (String × Value) → Bool
  | [], [] => true
  | (name, left) :: lefts, (other, right) :: rights =>
      decide (name = other) && left.same right && sameEntries lefts rights
  | _, _ => false

end

mutual

theorem Value.same_iff : ∀ left right : Value, left.same right = true ↔ left = right
  | .null, right => by cases right <;> simp [Value.same]
  | .str _, right => by cases right <;> simp [Value.same]
  | .bool _, right => by cases right <;> simp [Value.same]
  | .int _, right => by cases right <;> simp [Value.same]
  | .float _, right => by cases right <;> simp [Value.same]
  | .list left, right => by
      cases right with
      | list right => simp [Value.same, same_items_iff left right]
      | _ => simp [Value.same]
  | .dict left, right => by
      cases right with
      | dict right => simp [Value.same, same_entries_iff left right]
      | _ => simp [Value.same]

theorem same_items_iff : ∀ left right : List Value, sameItems left right = true ↔ left = right
  | [], right => by cases right <;> simp [sameItems]
  | left :: lefts, right => by
      cases right with
      | nil => simp [sameItems]
      | cons right rights => simp [sameItems, left.same_iff right, same_items_iff lefts rights]

theorem same_entries_iff : ∀ left right : List (String × Value),
    sameEntries left right = true ↔ left = right
  | [], right => by cases right <;> simp [sameEntries]
  | (name, left) :: lefts, right => by
      cases right with
      | nil => simp [sameEntries]
      | cons right rights =>
          obtain ⟨other, right⟩ := right
          simp [sameEntries, left.same_iff right, same_entries_iff lefts rights]

end

instance : DecidableEq Value := fun left right => decidable_of_iff _ (left.same_iff right)

end Equality

def hasKind : Value → ValueKind → Bool
  | .str _, .string => true
  | .str _, .path => true
  | .bool _, .boolean => true
  | .int _, .integer => true
  | .int _, .number => true
  | .float _, .number => true
  | _, _ => false

/-- Constraints for one scalar argument, with what `__post_init__` demands. -/
structure ArgumentRule where
  kind : ValueKind
  required : Bool := true
  enumValues : List Value := []
  minimum : Option PyFloat := none
  maximum : Option PyFloat := none
  maxLength : Option Nat := none
  ordered : ∀ low ∈ minimum, ∀ high ∈ maximum, high.lt low = false := by simp
  lengthKind : maxLength.isSome → kind = .string ∨ kind = .path := by simp
  boundKind : minimum.isSome ∨ maximum.isSome → kind = .integer ∨ kind = .number := by simp

/-- The policy of one tool, with what `__post_init__` demands. -/
structure ToolPolicy where
  toolName : String
  mutating : Bool
  arguments : Table (Prod.fst : String × ArgumentRule → String) := .empty
  allowExtraArguments : Bool := false
  advancedSmt : Option String := none
  named : toolName ≠ "" := by decide
  typed : mutating = true → arguments.rows ≠ [] := by simp

inductive VerificationStatus where
  | safe
  | rejected
  | unknown
  | unsupported
  | invalid
  deriving DecidableEq

def VerificationStatus.value : VerificationStatus → String
  | .safe => "safe"
  | .rejected => "rejected"
  | .unknown => "unknown"
  | .unsupported => "unsupported"
  | .invalid => "invalid"

structure RepairConstraint where
  field : String
  constraint : String
  value : Option Value := none

structure PolicyDecision where
  allowed : Bool
  status : VerificationStatus
  explanation : String
  violatedProperty : Option String := none
  counterexample : Option (List (String × Value)) := none
  repairConstraints : List RepairConstraint := []

def rejection (propertyName toolName : String) (arguments : Arguments) (explanation : String)
    (repair : List RepairConstraint := []) : PolicyDecision where
  allowed := false
  status := .rejected
  explanation := explanation
  violatedProperty := some propertyName
  counterexample := some [("tool_name", .str toolName), ("arguments", .dict arguments.rows)]
  repairConstraints := repair

section Evaluation

def broken {Bound Measure : Type} (bound : Option Bound) (measure : Option Measure)
    (breaks : Bound → Measure → Bool) : Option Bound :=
  bound.filter fun limit => measure.any (breaks limit)

-- `contain` stands for `contain_path`, which depends on the file system.
variable (library : Library) (contain : String → Except PathError Path)

def checkContainment (toolName : String) (arguments : Arguments) (name : String)
    (rule : ArgumentRule) (value : Value) : Except ValueError (Option PolicyDecision) :=
  match rule.kind, value with
  | .path, .str text =>
      match contain text with
      | .ok _ => .ok none
      | .error (.security message) =>
          .ok (some (rejection ("argument." ++ name ++ ".containment") toolName arguments message))
      | .error (.value error) => .error error
  | _, _ => .ok none

def rejectArgument (toolName : String) (arguments : Arguments) (name property explanation : String)
    (constraint : String) (bound : Value) : PolicyDecision :=
  rejection ("argument." ++ name ++ "." ++ property) toolName arguments
    ("Argument " ++ library.repr name ++ " " ++ explanation)
    [{ field := name, constraint := constraint, value := some bound }]

def checkBounds (toolName : String) (arguments : Arguments) (name : String)
    (rule : ArgumentRule) (value : Value) : Option PolicyDecision :=
  let reject := rejectArgument library toolName arguments name
  if rule.enumValues ≠ [] ∧ rule.enumValues.any value.equals = false then
    some (reject "enum" "is outside its allowed set." "enum" (.list rule.enumValues))
  else
    let low := broken rule.minimum value.number? fun low number => number.lt low
    let high := broken rule.maximum value.number? fun high number => high.lt number
    let length := broken rule.maxLength value.length? fun bound length => decide (bound < length)
    (low.map fun low => reject "minimum" "is below its minimum." "minimum" (.float low)).or
    ((high.map fun high => reject "maximum" "exceeds its maximum." "maximum" (.float high)).or
    (length.map fun bound : Nat =>
      reject "max_length" "exceeds its maximum length." "maxLength" (.int bound)))

/-- The checks of one argument that is there, in order; `none` goes on. -/
def checkArgument (toolName : String) (arguments : Arguments) (name : String)
    (rule : ArgumentRule) (value : Value) : Except ValueError (Option PolicyDecision) :=
  if hasKind value rule.kind = false then
    .ok (some (rejectArgument library toolName arguments name "type"
      ("must be " ++ rule.kind.value ++ ".") "type" (.str rule.kind.value)))
  else
    match checkContainment contain toolName arguments name rule value with
    | .ok none => .ok (checkBounds library toolName arguments name rule value)
    | decided => decided

def checkArguments (toolName : String) (arguments : Arguments) :
    List (String × ArgumentRule) → Except ValueError (Option PolicyDecision)
  | [] => .ok none
  | (name, rule) :: rest =>
      match arguments.get name with
      | none =>
          if rule.required then
            .ok (some (rejection ("argument." ++ name ++ ".required") toolName arguments
              ("Required argument " ++ library.repr name ++ " is missing.")
              [{ field := name, constraint := "required", value := some (.bool true) }]))
          else checkArguments toolName arguments rest
      | some value =>
          match checkArgument library contain toolName arguments name rule value with
          | .ok none => checkArguments toolName arguments rest
          | decided => decided

def extraArguments (policy : ToolPolicy) (arguments : Arguments) : List String :=
  ((arguments.rows.map Prod.fst).filter fun name =>
    name ∉ policy.arguments.rows.map Prod.fst).mergeSort fun left right => left ≤ right

def evaluateTyped (policy : ToolPolicy) (arguments : Arguments) : Except ValueError PolicyDecision :=
  match checkArguments library contain policy.toolName arguments policy.arguments.rows with
  | .error error => .error error
  | .ok (some decision) => .ok decision
  | .ok none =>
      let extra := extraArguments policy arguments
      if extra ≠ [] ∧ policy.allowExtraArguments = false then
        .ok (rejection "arguments.additionalProperties" policy.toolName arguments
          ("Unexpected arguments rejected: " ++ ", ".intercalate extra ++ ".")
          (extra.map fun name => { field := name, constraint := "remove" }))
      else .ok { allowed := true, status := .safe, explanation := "Typed tool policy satisfied." }

/-- The policies of a registry, by the name of the tool. -/
abbrev ToolPolicyRegistry : Type := Table ToolPolicy.toolName

/-- `ToolPolicyRegistry.require`; `verify` stands for the Z3 verifier. -/
def ToolPolicyRegistry.require (verify : Arguments → String → PolicyDecision)
    (policies : ToolPolicyRegistry) (toolName : String) (arguments : Arguments)
    (mutating : Bool) : Except ValueError PolicyDecision :=
  match policies.find? toolName with
  | none =>
      if mutating then
        .ok (rejection "missing_policy" toolName arguments
          "Mutating tool has no registered policy.")
      else
        .ok { allowed := true, status := .safe
              explanation := "Read-only tool needs no mutation policy." }
  | some policy =>
      if mutating = true ∧ policy.mutating = false then
        .ok (rejection "mutation_classification" toolName arguments
          "Tool is mutating but its policy is marked read-only.")
      else
        match evaluateTyped library contain policy arguments with
        | .error error => .error error
        | .ok decision =>
            match policy.advancedSmt with
            | some smt =>
                if decision.allowed = false ∨ smt = "" then .ok decision
                else .ok (verify arguments smt)
            | none => .ok decision

end Evaluation

section Acceptance

variable {library : Library} {root : Path}

structure Meets (root : Path) (rule : ArgumentRule) (value : Value) : Prop where
  kind : hasKind value rule.kind = true
  contained : rule.kind = .path → ∃ text path, value = .str text ∧ containPath root text = .ok path
  listed : rule.enumValues ≠ [] → rule.enumValues.any value.equals = true
  above : ∀ low ∈ rule.minimum, ∀ number ∈ value.number?, number.lt low = false
  below : ∀ high ∈ rule.maximum, ∀ number ∈ value.number?, high.lt number = false
  short : ∀ bound ∈ rule.maxLength, ∀ length ∈ value.length?, length ≤ bound

theorem has_kind_path {value : Value} (kind : hasKind value .path = true) :
    ∃ text, value = .str text := by
  cases value with
  | str text => exact ⟨text, rfl⟩
  | _ => cases kind

theorem check_containment_iff {toolName name : String} {arguments : Arguments}
    {rule : ArgumentRule} {value : Value} (kind : hasKind value rule.kind = true) :
    checkContainment (containPath root) toolName arguments name rule value = .ok none ↔
      (rule.kind = .path → ∃ text path, value = .str text ∧ containPath root text = .ok path) := by
  unfold checkContainment
  split
  · rename_i text named
    constructor
    · intro passed _
      split at passed
      · rename_i path contained
        exact ⟨text, path, rfl, contained⟩
      · cases passed
      · cases passed
    · intro contains
      obtain ⟨other, path, same, contained⟩ := contains named
      cases same
      rw [contained]
  · rename_i other
    constructor
    · intro _ named
      rw [named] at kind
      obtain ⟨text, shape⟩ := has_kind_path kind
      exact absurd shape (other text named)
    · exact fun _ => rfl

theorem broken_none_iff {Bound Measure : Type} {bound : Option Bound} {measure : Option Measure}
    {breaks : Bound → Measure → Bool} :
    broken bound measure breaks = none ↔
      ∀ limit ∈ bound, ∀ size ∈ measure, breaks limit size = false := by
  rw [broken]
  cases bound <;> cases measure <;> simp

theorem check_bounds_iff {toolName name : String} {arguments : Arguments} {rule : ArgumentRule}
    {value : Value} :
    checkBounds library toolName arguments name rule value = none ↔
      (rule.enumValues ≠ [] → rule.enumValues.any value.equals = true) ∧
      (∀ low ∈ rule.minimum, ∀ number ∈ value.number?, number.lt low = false) ∧
      (∀ high ∈ rule.maximum, ∀ number ∈ value.number?, high.lt number = false) ∧
      ∀ bound ∈ rule.maxLength, ∀ length ∈ value.length?, length ≤ bound := by
  rw [checkBounds]
  split
  · rename_i outside
    constructor
    · intro passed
      cases passed
    · intro kept
      rw [kept.1 outside.1] at outside
      cases outside.2
  · rename_i inside
    have listed : rule.enumValues ≠ [] → rule.enumValues.any value.equals = true := by
      intro some
      rw [not_and, Bool.not_eq_false] at inside
      exact inside some
    simp only [Option.or_eq_none_iff, Option.map_eq_none_iff, broken_none_iff,
      decide_eq_false_iff_not, Nat.not_lt]
    exact ⟨fun kept => ⟨listed, kept⟩, fun kept => kept.2⟩

theorem check_argument_iff {toolName name : String} {arguments : Arguments} {rule : ArgumentRule}
    {value : Value} :
    checkArgument library (containPath root) toolName arguments name rule value = .ok none ↔
      Meets root rule value := by
  rw [checkArgument]
  split
  · rename_i other
    constructor
    · intro passed
      cases passed
    · intro meets
      rw [meets.kind] at other
      cases other
  · rename_i kind
    rw [Bool.not_eq_false] at kind
    split
    · rename_i contained
      rw [Except.ok.injEq, check_bounds_iff]
      constructor
      · intro kept
        exact ⟨kind, (check_containment_iff kind).mp contained, kept.1, kept.2.1, kept.2.2.1,
          kept.2.2.2⟩
      · intro meets
        exact ⟨meets.listed, meets.above, meets.below, meets.short⟩
    · rename_i decided
      constructor
      · intro passed
        exact absurd passed decided
      · intro meets
        exact absurd ((check_containment_iff kind).mpr meets.contained) decided

theorem check_arguments_iff {toolName : String} {arguments : Arguments}
    {rules : List (String × ArgumentRule)} :
    checkArguments library (containPath root) toolName arguments rules = .ok none ↔
      ∀ entry ∈ rules, match arguments.get entry.1 with
        | none => entry.2.required = false
        | some value => Meets root entry.2 value := by
  induction rules with
  | nil => simp [checkArguments]
  | cons entry rest ih =>
      obtain ⟨name, rule⟩ := entry
      rw [checkArguments, List.forall_mem_cons, ← ih]
      cases arguments.get name with
      | none => cases rule.required <;> simp
      | some value =>
          simp only
          split
          · rename_i passed
            exact (and_iff_right (check_argument_iff.mp passed)).symm
          · rename_i decided
            constructor
            · intro passed
              exact absurd passed decided
            · intro both
              exact absurd (check_argument_iff.mpr both.1) decided

theorem check_containment_rejects {toolName name : String} {arguments : Arguments}
    {rule : ArgumentRule} {value : Value} {decision : PolicyDecision}
    (decided : checkContainment (containPath root) toolName arguments name rule value =
      .ok (some decision)) :
    decision.allowed = false := by
  unfold checkContainment at decided
  split at decided
  · split at decided
    · cases decided
    · cases decided
      rfl
    · cases decided
  · cases decided

theorem check_bounds_rejects {toolName name : String} {arguments : Arguments}
    {rule : ArgumentRule} {value : Value} {decision : PolicyDecision}
    (decided : checkBounds library toolName arguments name rule value = some decision) :
    decision.allowed = false := by
  rw [checkBounds] at decided
  split at decided
  · cases decided
    rfl
  · simp only [Option.or_eq_some_iff, Option.map_eq_some_iff] at decided
    rcases decided with ⟨_, _, shape⟩ | ⟨_, ⟨_, _, shape⟩ | ⟨_, _, _, shape⟩⟩
    · rw [← shape]
      rfl
    · rw [← shape]
      rfl
    · rw [← shape]
      rfl

theorem check_argument_rejects {toolName name : String} {arguments : Arguments}
    {rule : ArgumentRule} {value : Value} {decision : PolicyDecision}
    (decided : checkArgument library (containPath root) toolName arguments name rule value =
      .ok (some decision)) : decision.allowed = false := by
  rw [checkArgument] at decided
  split at decided
  · cases decided
    rfl
  · split at decided
    · exact check_bounds_rejects (Except.ok.inj decided)
    · exact check_containment_rejects decided

theorem check_arguments_rejects {toolName : String} {arguments : Arguments}
    {rules : List (String × ArgumentRule)} {decision : PolicyDecision}
    (decided : checkArguments library (containPath root) toolName arguments rules =
      .ok (some decision)) :
    decision.allowed = false := by
  induction rules with
  | nil => cases decided
  | cons entry rest ih =>
      obtain ⟨name, rule⟩ := entry
      rw [checkArguments] at decided
      split at decided
      · split at decided
        · cases decided
          rfl
        · exact ih decided
      · split at decided
        · exact ih decided
        · exact check_argument_rejects decided

theorem extra_nil_iff {policy : ToolPolicy} {arguments : Arguments} :
    extraArguments policy arguments = [] ↔
      ∀ row ∈ arguments.rows, row.1 ∈ policy.arguments.rows.map Prod.fst := by
  rw [← List.length_eq_zero_iff, extraArguments, List.length_mergeSort, List.length_eq_zero_iff,
    List.filter_eq_nil_iff, List.forall_mem_map]
  simp only [decide_eq_true_eq, not_not]

def Allows (library : Library) (root : Path) (policy : ToolPolicy) (arguments : Arguments) : Prop :=
  ∃ decision, evaluateTyped library (containPath root) policy arguments = .ok decision ∧
    decision.allowed = true

theorem allows_iff {policy : ToolPolicy} {arguments : Arguments} :
    Allows library root policy arguments ↔
      (∀ entry ∈ policy.arguments.rows, match arguments.get entry.1 with
        | none => entry.2.required = false
        | some value => Meets root entry.2 value) ∧
      (policy.allowExtraArguments = true ∨
        ∀ row ∈ arguments.rows, row.1 ∈ policy.arguments.rows.map Prod.fst) := by
  have rules : checkArguments library (containPath root) policy.toolName arguments
      policy.arguments.rows = .ok none ↔ _ := check_arguments_iff
  rw [← rules, Allows, evaluateTyped]
  cases checked : checkArguments library (containPath root) policy.toolName arguments
      policy.arguments.rows with
  | error error => simp
  | ok decided =>
      cases decided with
      | some decision => simp [check_arguments_rejects checked]
      | none =>
          rw [extra_nil_iff.symm]
          by_cases extra : extraArguments policy arguments = []
          · simp [extra]
          · cases policy.allowExtraArguments <;> simp [extra, rejection]

theorem require_allows_iff {verify : Arguments → String → PolicyDecision}
    {policies : ToolPolicyRegistry} {policy : ToolPolicy} {toolName : String}
    {arguments : Arguments} (found : policies.find? toolName = some policy)
    (mutating : policy.mutating = true) (plain : policy.advancedSmt = none) :
    (∃ decision, policies.require library (containPath root) verify toolName arguments true =
      .ok decision ∧ decision.allowed = true) ↔ Allows library root policy arguments := by
  rw [ToolPolicyRegistry.require, found, Allows]
  simp only
  rw [if_neg (by simp [mutating]), plain]
  cases evaluateTyped library (containPath root) policy arguments <;> simp

end Acceptance

section BuiltinPolicies

def pathRule : ArgumentRule := { kind := .path }

def contentRule : ArgumentRule := { kind := .string, maxLength := some 1000000 }

def flagRule : ArgumentRule := { kind := .boolean }

def expectedSha256Rule : ArgumentRule := { kind := .string, required := false, maxLength := some 64 }

def expectedAbsentRule : ArgumentRule := { kind := .boolean, required := false }

def writeFilePolicy : ToolPolicy where
  toolName := "WRITE_FILE"
  mutating := true
  arguments := ⟨[("path", pathRule), ("content", contentRule),
    ("expected_sha256", expectedSha256Rule), ("expected_absent", expectedAbsentRule)], by decide⟩

def deleteFilePolicy : ToolPolicy where
  toolName := "DELETE_FILE"
  mutating := true
  arguments := ⟨[("path", pathRule),
    ("expected_sha256", expectedSha256Rule), ("expected_absent", expectedAbsentRule)], by decide⟩

def restoreFilePolicy : ToolPolicy where
  toolName := "RESTORE_FILE"
  mutating := true
  arguments := ⟨[("path", pathRule), ("existed", flagRule), ("previous", contentRule),
    ("expected_sha256", expectedSha256Rule), ("expected_absent", expectedAbsentRule)], by decide⟩

/-- `builtin_policy_registry`. -/
def builtinPolicies : ToolPolicyRegistry :=
  ⟨[writeFilePolicy, deleteFilePolicy, restoreFilePolicy], by decide⟩

section Demands

variable {root : Path} {value : Value}

theorem meets_path : Meets root pathRule value ↔
    ∃ text path, value = .str text ∧ containPath root text = .ok path := by
  constructor
  · exact fun meets => meets.contained rfl
  · rintro ⟨text, path, rfl, contained⟩
    constructor <;> simp [pathRule, hasKind, contained]

theorem meets_flag {rule : ArgumentRule} (plain : rule = flagRule ∨ rule = expectedAbsentRule) :
    Meets root rule value ↔ ∃ flag, value = .bool flag := by
  have shape : rule.kind = .boolean ∧ rule.enumValues = [] ∧ rule.minimum = none ∧
      rule.maximum = none ∧ rule.maxLength = none := by
    rcases plain with rfl | rfl
    · exact ⟨rfl, rfl, rfl, rfl, rfl⟩
    · exact ⟨rfl, rfl, rfl, rfl, rfl⟩
  obtain ⟨kind, listed, low, high, short⟩ := shape
  constructor
  · intro meets
    have own := meets.kind
    rw [kind] at own
    cases value with
    | bool flag => exact ⟨flag, rfl⟩
    | _ => cases own
  · rintro ⟨flag, rfl⟩
    constructor <;> simp [kind, listed, low, high, short, hasKind]

theorem meets_text {rule : ArgumentRule} {bound : Nat}
    (plain : rule = { kind := .string, required := rule.required, maxLength := some bound }) :
    Meets root rule value ↔ ∃ text, value = .str text ∧ text.length ≤ bound := by
  rw [plain]
  constructor
  · intro meets
    have own := meets.kind
    cases value with
    | str text => exact ⟨text, rfl, meets.short bound rfl _ rfl⟩
    | _ => cases own
  · rintro ⟨text, rfl, short⟩
    constructor <;> simp [hasKind, Value.length?, short]

end Demands

end BuiltinPolicies

end SagaMind.Sandbox
