import SagaMind.Foundation.Checklist
import SagaMind.Sandbox.FileContract

/-!
# Typed policy decisions

What a policy demands of a call, as a checklist in declaration order, against
what the evaluation decides. A bound is checked by looking for a value beyond
it, and a NaN is beyond no bound and within none. Everywhere else the decision
is exact.
-/

namespace SagaMind.PolicyDecisions

open KeyedTable Sandbox Checklist

set_option autoImplicit false

/-- `<=` on floats; a NaN is below or above nothing, itself included. -/
def le : PyFloat → PyFloat → Bool
  | .nan, _ => false
  | _, .nan => false
  | .infinite negative, .infinite other => negative || !other
  | .infinite negative, .finite _ => negative
  | .finite _, .infinite negative => !negative
  | .finite value, .finite other => decide (value ≤ other)

def comparable (left right : PyFloat) : Bool := left ≠ .nan && right ≠ .nan

inductive Property where
  | required
  | type
  | containment
  | enum
  | minimum
  | maximum
  | maxLength
  deriving DecidableEq

namespace Property

def name : Property → String
  | required => "required"
  | type => "type"
  | containment => "containment"
  | enum => "enum"
  | minimum => "minimum"
  | maximum => "maximum"
  | maxLength => "max_length"

def inOrder : List Property := [required, type, containment, enum, minimum, maximum, maxLength]

/-- The demand on an argument that may be absent; `contain` is the oracle of
path containment. -/
def holds (contain : String → Except String FileTree.Path) (rule : ArgumentRule)
    (value : Option Value) : Property → Bool
  | required => value.isSome || !rule.required
  | type => value.all (hasKind · rule.kind)
  | containment => rule.kind ≠ .path || value.all fun
      | .str text => (contain text).isOk
      | _ => false
  | enum => rule.enumValues.isEmpty || value.all fun value => rule.enumValues.any value.equals
  | minimum => rule.minimum.all fun low => value.all fun value => value.number?.any (le low)
  | maximum => rule.maximum.all fun high => value.all fun value => value.number?.any (le · high)
  | maxLength => rule.maxLength.all fun bound => value.all fun value =>
      value.length?.any fun length => length ≤ bound

def ordered (rule : ArgumentRule) (value : Option Value) : Property → Bool
  | minimum => rule.minimum.all fun low => value.all fun value => value.number?.all (comparable low)
  | maximum => rule.maximum.all fun high => value.all fun value =>
      value.number?.all (comparable high)
  | _ => true

end Property

/-- One demand of a policy on a call, and whether what it compares is ordered. -/
structure Check where
  name : String
  holds : Bool
  ordered : Bool := true

def Check.passes (check : Check) : Bool := check.holds || !check.ordered

variable (contain : String → Except String FileTree.Path)

def argumentCheck (arguments : Arguments) (entry : String × ArgumentRule) (property : Property) :
    Check where
  name := "argument." ++ entry.1 ++ "." ++ property.name
  holds := property.holds contain entry.2 (arguments.get entry.1)
  ordered := property.ordered entry.2 (arguments.get entry.1)

def argumentChecks (arguments : Arguments) (entry : String × ArgumentRule) : List Check :=
  Property.inOrder.map (argumentCheck contain arguments entry)

def declaresAll (policy : ToolPolicy) (arguments : Arguments) : Bool :=
  policy.allowExtraArguments || (extraArguments policy arguments).isEmpty

def checks (policy : ToolPolicy) (arguments : Arguments) : List Check :=
  { name := "mutation_classification", holds := policy.mutating } ::
    (policy.arguments.rows.flatMap (argumentChecks contain arguments) ++
      [{ name := "arguments.additionalProperties", holds := declaresAll policy arguments }])

def firstViolated (policy : ToolPolicy) (arguments : Arguments) : Option String :=
  firstFailing Check.name Check.holds (checks contain policy arguments)

/-- What a rule demands of a value. -/
structure Fits (rule : ArgumentRule) (value : Value) : Prop where
  kind : hasKind value rule.kind = true
  contained : rule.kind = .path → ∃ text path, value = .str text ∧ contain text = .ok path
  listed : rule.enumValues ≠ [] → rule.enumValues.any value.equals = true
  above : ∀ low ∈ rule.minimum, ∃ number ∈ value.number?, le low number = true
  below : ∀ high ∈ rule.maximum, ∃ number ∈ value.number?, le number high = true
  short : ∀ bound ∈ rule.maxLength, ∃ length ∈ value.length?, length ≤ bound

/-- What a policy demands of the arguments of a mutating call. -/
structure Complies (policy : ToolPolicy) (arguments : Arguments) : Prop where
  mutating : policy.mutating = true
  required : ∀ entry ∈ policy.arguments.rows, entry.2.required = true →
    (arguments.get entry.1).isSome = true
  fits : ∀ entry ∈ policy.arguments.rows, ∀ value ∈ arguments.get entry.1,
    Fits contain entry.2 value
  declared : policy.allowExtraArguments = true ∨
    ∀ row ∈ arguments.rows, row.1 ∈ policy.arguments.rows.map Prod.fst

/-- `contain_path` with the answers of the oracle. -/
def asked (text : String) : Except PathError FileTree.Path :=
  (contain text).mapError PathError.security

/-- The decision allows exactly what complies, and a rejection names the first
demand that is violated. -/
def Exact (library : Library) (verify : Arguments → String → PolicyDecision)
    (policies : ToolPolicyRegistry) (policy : ToolPolicy) (arguments : Arguments) : Prop :=
  ∃ decision, policies.require library (asked contain) verify policy.toolName arguments true =
      .ok decision ∧
    (decision.allowed = true ↔ Complies contain policy arguments) ∧
    (decision.allowed = false →
      decision.violatedProperty = firstViolated contain policy arguments)

/-- A check is reached when all demands before it hold. -/
def Ordered (policy : ToolPolicy) (arguments : Arguments) : Prop :=
  ∀ before check later, checks contain policy arguments = before ++ check :: later →
    (∀ earlier ∈ before, earlier.holds = true) → check.ordered = true

section Demands

variable {contain}

theorem le_below {low number : PyFloat} :
    (number.lt low) = !(le low number || !comparable low number) := by
  cases low with
  | nan => cases number <;> rfl
  | infinite negative =>
      cases number with
      | nan => cases negative <;> rfl
      | infinite other => cases negative <;> cases other <;> rfl
      | finite value => cases negative <;> rfl
  | finite value =>
      cases number with
      | nan => rfl
      | infinite other => cases other <;> rfl
      | finite other =>
          have order : decide (other < value) = !decide (value ≤ other) := by
            rw [← decide_not, decide_eq_decide, not_le]
          simp [PyFloat.lt, le, comparable, order]

theorem le_above {high number : PyFloat} :
    (high.lt number) = !(le number high || !comparable high number) := by
  have swapped : comparable high number = comparable number high := Bool.and_comm _ _
  rw [swapped]
  exact le_below

theorem unordered_fails {left right : PyFloat} (unordered : comparable left right = false) :
    le left right = false := by
  cases left with
  | nan => rfl
  | infinite negative =>
      cases right with
      | nan => rfl
      | infinite other => simp [comparable] at unordered
      | finite value => simp [comparable] at unordered
  | finite value =>
      cases right with
      | nan => rfl
      | infinite other => simp [comparable] at unordered
      | finite other => simp [comparable] at unordered

theorem fits_iff {rule : ArgumentRule} {value : Value} :
    Fits contain rule value ↔
      ∀ property ∈ Property.inOrder, property.holds contain rule (some value) = true := by
  have path : (rule.kind ≠ .path || (some value).all fun
      | .str text => (contain text).isOk
      | _ => false) = true ↔
      (rule.kind = .path → ∃ text path, value = .str text ∧ contain text = .ok path) := by
    rw [Bool.or_eq_true, decide_eq_true_iff, ← imp_iff_not_or]
    apply imp_congr_right
    intro _
    cases value with
    | str text =>
        cases answer : contain text with
        | ok path => simp [Except.isOk, Except.toBool, answer]
        | error message => simp [Except.isOk, Except.toBool, answer]
    | _ => simp
  have listed : (rule.enumValues.isEmpty || (some value).all fun value =>
      rule.enumValues.any value.equals) = true ↔
      (rule.enumValues ≠ [] → rule.enumValues.any value.equals = true) := by
    rw [Bool.or_eq_true, List.isEmpty_iff, Option.all_some, imp_iff_or_not, or_comm, not_not]
  constructor
  · intro fits property member
    cases property with
    | required => rfl
    | type => exact fits.kind
    | containment => exact path.mpr fits.contained
    | enum => exact listed.mpr fits.listed
    | minimum =>
        simpa [Property.holds, Option.all_eq_true, Option.any_eq_true] using fits.above
    | maximum =>
        simpa [Property.holds, Option.all_eq_true, Option.any_eq_true] using fits.below
    | maxLength =>
        simpa [Property.holds, Option.all_eq_true, Option.any_eq_true] using fits.short
  · intro all
    have each (property : Property) : property.holds contain rule (some value) = true := by
      apply all
      cases property <;> decide
    constructor
    · exact each .type
    · exact path.mp (each .containment)
    · exact listed.mp (each .enum)
    · simpa [Property.holds, Option.all_eq_true, Option.any_eq_true] using each .minimum
    · simpa [Property.holds, Option.all_eq_true, Option.any_eq_true] using each .maximum
    · simpa [Property.holds, Option.all_eq_true, Option.any_eq_true] using each .maxLength

theorem absent_holds {rule : ArgumentRule} {property : Property} (other : property ≠ .required) :
    property.holds contain rule none = true := by
  cases property with
  | required => exact absurd rfl other
  | type => rfl
  | containment => exact Bool.or_true _
  | enum => exact Bool.or_true _
  | minimum => cases bound : rule.minimum <;> simp [Property.holds, bound]
  | maximum => cases bound : rule.maximum <;> simp [Property.holds, bound]
  | maxLength => cases bound : rule.maxLength <;> simp [Property.holds, bound]

variable {policy : ToolPolicy} {arguments : Arguments}

theorem declares_all_iff : declaresAll policy arguments = true ↔
    policy.allowExtraArguments = true ∨
      ∀ row ∈ arguments.rows, row.1 ∈ policy.arguments.rows.map Prod.fst := by
  rw [declaresAll, Bool.or_eq_true, List.isEmpty_iff, extra_nil_iff]

theorem complies_iff :
    Complies contain policy arguments ↔ firstViolated contain policy arguments = none := by
  have each (entry : String × ArgumentRule) :
      (∀ check ∈ argumentChecks contain arguments entry, check.holds = true) ↔
        (entry.2.required = true → (arguments.get entry.1).isSome = true) ∧
          ∀ value ∈ arguments.get entry.1, Fits contain entry.2 value := by
    rw [argumentChecks, List.forall_mem_map]
    simp only [argumentCheck]
    cases given : arguments.get entry.1 with
    | none =>
        constructor
        · intro all
          have required := all .required (by decide)
          refine ⟨?_, fun _ impossible => by cases impossible⟩
          intro demanded
          simp [Property.holds, demanded] at required
        · intro both property _
          by_cases required : property = .required
          · rw [required]
            cases demanded : entry.2.required with
            | true => exact absurd (both.1 demanded) (by decide)
            | false => simp [Property.holds, demanded]
          · exact absent_holds required
    | some value =>
        rw [← fits_iff]
        constructor
        · intro fits
          refine ⟨fun _ => rfl, ?_⟩
          intro other same
          rw [← Option.some.inj same]
          exact fits
        · exact fun both => both.2 value rfl
  rw [firstViolated, first_none_iff, checks, List.forall_mem_cons, List.forall_mem_append,
    List.forall_mem_singleton, declares_all_iff]
  have rules : (∀ check ∈ policy.arguments.rows.flatMap (argumentChecks contain arguments),
      check.holds = true) ↔ ∀ entry ∈ policy.arguments.rows,
        ∀ check ∈ argumentChecks contain arguments entry, check.holds = true := by
    constructor
    · intro all entry member check listed
      exact all check (List.mem_flatMap.mpr ⟨entry, member, listed⟩)
    · intro all check listed
      obtain ⟨entry, member, own⟩ := List.mem_flatMap.mp listed
      exact all entry member check own
  rw [rules]
  simp only [each]
  constructor
  · intro complies
    exact ⟨complies.mutating,
      fun entry member => ⟨complies.required entry member, complies.fits entry member⟩,
      complies.declared⟩
  · intro all
    exact ⟨all.1, fun entry member => (all.2.1 entry member).1,
      fun entry member => (all.2.1 entry member).2, all.2.2⟩

end Demands

section Evaluation

variable {contain : String → Except String FileTree.Path} {library : Library} {arguments : Arguments}
  {name toolName : String} {rule : ArgumentRule} {value : Value}

attribute [local simp] argumentCheck

def verdict (decision : PolicyDecision) : Bool × Option String :=
  (decision.allowed, decision.violatedProperty)

def rejects (first : Option String) : Option (Bool × Option String) :=
  first.map fun name => (false, some name)

def firstRejected (checks : List Check) : Option String := firstFailing Check.name Check.passes checks

theorem bound_verdict {Bound : Type} {bound : Option Bound} {reject : Bound → PolicyDecision}
    {property : String} {passes : Bool} {others : Option PolicyDecision} {first : Option String}
    (names : ∀ limit, verdict (reject limit) = (false, some property))
    (broken : bound = none ↔ passes = true) (rest : others.map verdict = rejects first) :
    ((bound.map reject).or others).map verdict =
      rejects (if passes then first else some property) := by
  cases bound with
  | none =>
      rw [if_pos (broken.mp rfl)]
      exact rest
  | some limit =>
      have unkept : passes ≠ true := fun kept => by cases broken.mpr kept
      rw [if_neg unkept]
      exact congrArg some (names limit)

/-- A rule with numeric bounds is about numbers, and one with a length about texts. -/
theorem bounded_number (kind : hasKind value rule.kind = true)
    (bounded : rule.minimum.isSome ∨ rule.maximum.isSome) : ∃ number, value.number? = some number := by
  have numeric := rule.boundKind bounded
  cases value with
  | int number => exact ⟨_, rfl⟩
  | float number => exact ⟨_, rfl⟩
  | bool flag =>
      rcases numeric with same | same
      · rw [same] at kind
        cases kind
      · rw [same] at kind
        cases kind
  | _ =>
      rcases numeric with same | same
      · rw [same] at kind
        cases kind
      · rw [same] at kind
        cases kind

theorem bounded_length (kind : hasKind value rule.kind = true) (bounded : rule.maxLength.isSome) :
    ∃ length, value.length? = some length := by
  have textual := rule.lengthKind bounded
  cases value with
  | str text => exact ⟨_, rfl⟩
  | _ =>
      rcases textual with same | same
      · rw [same] at kind
        cases kind
      · rw [same] at kind
        cases kind

theorem minimum_passes (given : arguments.get name = some value)
    (kind : hasKind value rule.kind = true) :
    broken rule.minimum value.number? (fun low number => number.lt low) = none ↔
      (argumentCheck contain arguments (name, rule) .minimum).passes = true := by
  rw [broken_none_iff, Check.passes, argumentCheck]
  simp only [Property.holds, Property.ordered, given, Option.all_some]
  cases bound : rule.minimum with
  | none => simp
  | some low =>
      obtain ⟨number, measured⟩ := bounded_number kind (.inl (by rw [bound]; rfl))
      cases inside : le low number <;> simp [measured, le_below, inside]

theorem maximum_passes (given : arguments.get name = some value)
    (kind : hasKind value rule.kind = true) :
    broken rule.maximum value.number? (fun high number => high.lt number) = none ↔
      (argumentCheck contain arguments (name, rule) .maximum).passes = true := by
  rw [broken_none_iff, Check.passes, argumentCheck]
  simp only [Property.holds, Property.ordered, given, Option.all_some]
  cases bound : rule.maximum with
  | none => simp
  | some high =>
      obtain ⟨number, measured⟩ := bounded_number kind (.inr (by rw [bound]; rfl))
      cases inside : le number high <;> simp [measured, le_above, inside]

theorem length_passes (given : arguments.get name = some value)
    (kind : hasKind value rule.kind = true) :
    broken rule.maxLength value.length? (fun bound length => decide (bound < length)) = none ↔
      (argumentCheck contain arguments (name, rule) .maxLength).passes = true := by
  rw [broken_none_iff, Check.passes, argumentCheck]
  simp only [Property.holds, Property.ordered, given, Option.all_some]
  cases bound : rule.maxLength with
  | none => simp
  | some bound =>
      obtain ⟨length, measured⟩ := bounded_length kind (by rw [bound]; rfl)
      simp [measured]

theorem check_bounds_verdict (given : arguments.get name = some value)
    (kind : hasKind value rule.kind = true) :
    (checkBounds library toolName arguments name rule value).map verdict =
      rejects (firstRejected ([.enum, .minimum, .maximum, .maxLength].map
        (argumentCheck contain arguments (name, rule)))) := by
  have listed : (argumentCheck contain arguments (name, rule) .enum).passes = true ↔
      ¬(rule.enumValues ≠ [] ∧ rule.enumValues.any value.equals = false) := by
    simp only [Check.passes, argumentCheck, Property.holds, Property.ordered, given, Option.all_some,
      Bool.not_true, Bool.or_false, Bool.or_eq_true, List.isEmpty_iff]
    cases rule.enumValues.any value.equals <;> simp
  simp only [firstRejected, List.map_cons, List.map_nil, first_cons, first_nil]
  rw [checkBounds]
  by_cases outside : rule.enumValues ≠ [] ∧ rule.enumValues.any value.equals = false
  · have unlisted := listed.not.mpr (not_not.mpr outside)
    rw [if_pos outside, if_neg unlisted]
    rfl
  · rw [if_neg outside, if_pos (listed.mpr outside)]
    apply bound_verdict
    · exact fun _ => rfl
    · exact minimum_passes given kind
    apply bound_verdict
    · exact fun _ => rfl
    · exact maximum_passes given kind
    have last := @bound_verdict Nat
      (broken rule.maxLength value.length? fun bound length => decide (bound < length))
      (fun bound => rejectArgument library toolName arguments name "max_length"
        "exceeds its maximum length." "maxLength" (.int bound))
      _ _ none none (fun _ => rfl) (@length_passes contain _ _ _ _ given kind) rfl
    rw [Option.or_none] at last
    exact last

theorem check_containment_verdict (given : arguments.get name = some value)
    (kind : hasKind value rule.kind = true) :
    ∃ decided, checkContainment (asked contain) toolName arguments name rule value = .ok decided ∧
      decided.map verdict = rejects (firstRejected
        [argumentCheck contain arguments (name, rule) .containment]) := by
  simp only [firstRejected, first_cons, first_nil]
  unfold checkContainment
  split
  · rename_i text named
    cases answer : contain text with
    | ok path =>
        refine ⟨none, ?_, ?_⟩
        · simp [asked, answer, Except.mapError]
        · rw [if_pos]
          · rfl
          · simp [Check.passes, Property.holds, given, answer, Except.isOk,
              Except.toBool]
    | error message =>
        refine ⟨some (rejection ("argument." ++ name ++ ".containment") toolName arguments message),
          ?_, ?_⟩
        · simp only [asked, answer, Except.mapError]
        · rw [if_neg]
          · change some (false, some ("argument." ++ name ++ ".containment")) = _
            rw [show ".containment" = "." ++ "containment" from rfl, ← String.append_assoc]
            rfl
          · simp [Check.passes, Property.holds, Property.ordered, given, answer,
              Except.isOk, Except.toBool, named]
  · rename_i other
    refine ⟨none, rfl, ?_⟩
    rw [if_pos]
    · rfl
    · have unlike : rule.kind ≠ .path := by
        intro named
        rw [named] at kind
        obtain ⟨text, shape⟩ := has_kind_path kind
        exact other text named shape
      simp [Check.passes, Property.holds, unlike]

theorem then_rejects {decided later : Option PolicyDecision} {first rest : Option String}
    (one : decided.map verdict = rejects first) (two : later.map verdict = rejects rest) :
    (decided.or later).map verdict = rejects (first.or rest) := by
  cases decided with
  | none =>
      cases first with
      | none => exact two
      | some failing => cases one
  | some decision =>
      cases first with
      | none => cases one
      | some failing => exact one

/-- An argument that is not there fails at most the first demand. -/
theorem absent_verdict {name : String} {rule : ArgumentRule}
    (missing : arguments.get name = none) :
    firstRejected (argumentChecks contain arguments (name, rule)) =
      if rule.required then some ("argument." ++ name ++ "." ++ "required") else none := by
  have absent (property : Property) (other : property ≠ .required) :
      (argumentCheck contain arguments (name, rule) property).passes = true := by
    rw [Check.passes, argumentCheck, missing, absent_holds other, Bool.true_or]
  have required : (argumentCheck contain arguments (name, rule) .required).passes =
      !rule.required := by
    simp [Check.passes, Property.holds, Property.ordered, missing]
  have others : firstFailing Check.name Check.passes
      ([.type, .containment, .enum, .minimum, .maximum, .maxLength].map
        (argumentCheck contain arguments (name, rule))) = none := by
    rw [first_none_iff, List.forall_mem_map]
    intro property member
    apply absent
    intro same
    rw [same] at member
    exact absurd member (by decide)
  rw [firstRejected, argumentChecks, Property.inOrder, List.map_cons, first_cons, required, others]
  cases rule.required <;> rfl

theorem check_argument_verdict (given : arguments.get name = some value) :
    ∃ decided, checkArgument library (asked contain) toolName arguments name rule value =
        .ok decided ∧
      decided.map verdict = rejects (firstRejected (argumentChecks contain arguments (name, rule))) := by
  have required : (argumentCheck contain arguments (name, rule) .required).passes = true := by
    simp [Check.passes, Property.holds, given]
  have typed : (argumentCheck contain arguments (name, rule) .type).passes =
      hasKind value rule.kind := by
    simp [Check.passes, Property.holds, Property.ordered, given]
  have split : argumentChecks contain arguments (name, rule) =
      [argumentCheck contain arguments (name, rule) .required,
        argumentCheck contain arguments (name, rule) .type] ++
      ([argumentCheck contain arguments (name, rule) .containment] ++
        [.enum, .minimum, .maximum, .maxLength].map (argumentCheck contain arguments (name, rule))) :=
    rfl
  rw [checkArgument, split, firstRejected, List.cons_append, first_cons, if_pos required,
    List.cons_append, first_cons, typed, List.nil_append, first_append]
  cases kind : hasKind value rule.kind with
  | false =>
      rw [if_pos rfl, if_neg (by decide)]
      exact ⟨_, rfl, rfl⟩
  | true =>
      rw [if_neg (by decide), if_pos rfl]
      obtain ⟨decided, answered, first⟩ := check_containment_verdict given kind
      refine ⟨decided.or (checkBounds library toolName arguments name rule value), ?_,
        then_rejects first (check_bounds_verdict given kind)⟩
      rw [answered]
      cases decided with
      | none => rfl
      | some decision => rfl

theorem check_arguments_verdict (rules : List (String × ArgumentRule)) :
    ∃ decided, checkArguments library (asked contain) toolName arguments rules = .ok decided ∧
      decided.map verdict =
        rejects (firstRejected (rules.flatMap (argumentChecks contain arguments))) := by
  induction rules with
  | nil => exact ⟨none, rfl, rfl⟩
  | cons entry rest ih =>
      obtain ⟨name, rule⟩ := entry
      obtain ⟨later, answeredLater, firstLater⟩ := ih
      rw [checkArguments, List.flatMap_cons, firstRejected, first_append]
      cases given : arguments.get name with
      | none =>
          have first := @absent_verdict contain arguments name rule given
          rw [firstRejected] at first
          rw [first]
          cases rule.required with
          | true =>
              refine ⟨_, rfl, ?_⟩
              change some (false, some ("argument." ++ name ++ ".required")) = _
              rw [show ".required" = "." ++ "required" from rfl, ← String.append_assoc]
              rfl
          | false => exact ⟨later, answeredLater, firstLater⟩
      | some value =>
          obtain ⟨decided, answered, first⟩ :=
            @check_argument_verdict contain library arguments name toolName rule value given
          refine ⟨decided.or later, ?_, then_rejects first firstLater⟩
          simp only [answered]
          cases decided with
          | none => exact answeredLater
          | some decision => rfl

/-- Extra arguments are the last demand, and what the evaluation asks last. -/
theorem evaluate_verdict {policy : ToolPolicy} :
    ∃ decision, evaluateTyped library (asked contain) policy arguments = .ok decision ∧
      (decision.allowed = true ↔
        (firstRejected (policy.arguments.rows.flatMap (argumentChecks contain arguments))).or
          (if declaresAll policy arguments then none
            else some "arguments.additionalProperties") = none) ∧
      (decision.allowed = false → decision.violatedProperty =
        (firstRejected (policy.arguments.rows.flatMap (argumentChecks contain arguments))).or
          (if declaresAll policy arguments then none
            else some "arguments.additionalProperties")) := by
  obtain ⟨decided, answered, first⟩ :=
    @check_arguments_verdict contain library arguments policy.toolName policy.arguments.rows
  rw [evaluateTyped, answered]
  cases decided with
  | some decision =>
      cases rejected : firstRejected (policy.arguments.rows.flatMap
          (argumentChecks contain arguments)) with
      | none =>
          rw [rejected] at first
          cases first
      | some failing =>
          rw [rejected] at first
          have same := Prod.mk.inj (Option.some.inj first)
          refine ⟨decision, rfl, ?_, fun _ => same.2⟩
          rw [same.1]
          simp
  | none =>
      cases rejected : firstRejected (policy.arguments.rows.flatMap
          (argumentChecks contain arguments)) with
      | some failing =>
          rw [rejected] at first
          cases first
      | none =>
          rw [Option.none_or, declaresAll]
          simp only
          by_cases extra : extraArguments policy arguments ≠ [] ∧
              policy.allowExtraArguments = false
          · rw [if_pos extra, if_neg (by simp [extra.1, extra.2])]
            exact ⟨_, rfl, by simp [rejection], fun _ => rfl⟩
          · rw [if_neg extra, if_pos]
            · exact ⟨_, rfl, by simp, by simp⟩
            · by_contra neither
              apply extra
              simpa [and_comm] using neither

theorem require_verdict {verify : Arguments → String → PolicyDecision}
    {policies : ToolPolicyRegistry} {policy : ToolPolicy}
    (found : policies.find? policy.toolName = some policy)
    (plain : ∀ smt ∈ policy.advancedSmt, smt = "") :
    ∃ decision, policies.require library (asked contain) verify policy.toolName arguments true =
        .ok decision ∧
      (decision.allowed = true ↔ firstRejected (checks contain policy arguments) = none) ∧
      (decision.allowed = false →
        decision.violatedProperty = firstRejected (checks contain policy arguments)) := by
  rw [ToolPolicyRegistry.require, found, checks, firstRejected, first_cons]
  simp only
  cases mutating : policy.mutating with
  | false =>
      rw [if_pos ⟨trivial, rfl⟩, if_neg (by decide)]
      exact ⟨_, rfl, by simp [rejection], fun _ => rfl⟩
  | true =>
      rw [if_neg (by decide), if_pos (by rfl), first_append]
      have last : firstFailing Check.name Check.passes
          [{ name := "arguments.additionalProperties", holds := declaresAll policy arguments }] =
          if declaresAll policy arguments then none
          else some "arguments.additionalProperties" := by
        simp [Check.passes]
      rw [last]
      obtain ⟨decision, evaluated, allows, names⟩ :=
        @evaluate_verdict contain library arguments policy
      refine ⟨decision, ?_, allows, names⟩
      rw [evaluated]
      cases smt : policy.advancedSmt with
      | none => rfl
      | some text => simp [plain text smt]

end Evaluation

section Names

variable {contain : String → Except String FileTree.Path} {policy : ToolPolicy}
  {arguments : Arguments}

theorem last_split_unique {separator : Char} {left right first second : List Char}
    (plain : separator ∉ first) (other : separator ∉ second)
    (same : left ++ separator :: first = right ++ separator :: second) :
    left = right ∧ first = second := by
  rcases List.append_eq_append_iff.mp same with ⟨middle, longer, rest⟩ | ⟨middle, longer, rest⟩
  · cases middle with
    | nil =>
        rw [List.append_nil] at longer
        exact ⟨longer.symm, (List.cons.inj rest).2⟩
    | cons head tail =>
        have inside : separator ∈ first := by
          rw [(List.cons.inj rest).2]
          exact List.mem_append_cons_self
        exact absurd inside plain
  · cases middle with
    | nil =>
        rw [List.append_nil] at longer
        exact ⟨longer, (List.cons.inj rest).2.symm⟩
    | cons head tail =>
        have inside : separator ∈ second := by
          rw [(List.cons.inj rest).2]
          exact List.mem_append_cons_self
        exact absurd inside other

theorem check_name_injective {left right : String × ArgumentRule} {property other : Property}
    (same : (argumentCheck contain arguments left property).name =
      (argumentCheck contain arguments right other).name) :
    left.1 = right.1 ∧ property = other := by
  have dotless (property : Property) : '.' ∉ property.name.toList := by
    cases property <;> decide
  have texts : ("argument." ++ left.1).toList ++ '.' :: property.name.toList =
      ("argument." ++ right.1).toList ++ '.' :: other.name.toList := by
    have listed := congrArg String.toList same
    simpa [argumentCheck] using listed
  have split := last_split_unique (dotless property) (dotless other) texts
  constructor
  · have named := String.toList_injective split.1
    exact (String.append_right_inj _).mp named
  · have named := String.toList_injective split.2
    cases property <;> cases other <;> first | rfl | exact absurd named (by decide)

theorem check_name_apart {entry : String × ArgumentRule} {property : Property} :
    (argumentCheck contain arguments entry property).name ≠ "mutation_classification" ∧
      (argumentCheck contain arguments entry property).name ≠ "arguments.additionalProperties" := by
  constructor
  · intro same
    have chars := congrArg (fun text => text.toList[0]?) same
    simp [argumentCheck] at chars
  · intro same
    have chars := congrArg (fun text => text.toList[8]?) same
    simp [argumentCheck] at chars

theorem names_distinct : ((checks contain policy arguments).map Check.name).Nodup := by
  have names (name : String) (member : name ∈ (policy.arguments.rows.flatMap
      (argumentChecks contain arguments)).map Check.name) :
      ∃ entry property, (argumentCheck contain arguments entry property).name = name := by
    obtain ⟨check, listed, same⟩ := List.mem_map.mp member
    obtain ⟨entry, -, own⟩ := List.mem_flatMap.mp listed
    obtain ⟨property, -, shape⟩ := List.mem_map.mp own
    rw [← shape] at same
    exact ⟨entry, property, same⟩
  have rules : ((policy.arguments.rows.flatMap (argumentChecks contain arguments)).map
      Check.name).Nodup := by
    rw [List.map_flatMap, List.nodup_flatMap]
    constructor
    · intro entry _
      rw [argumentChecks, List.map_map]
      apply List.Nodup.map_on
      · intro property _ other _ same
        exact (check_name_injective same).2
      · decide
    · have distinct := policy.arguments.distinct
      rw [List.nodup_map_iff_inj_on (List.Nodup.of_map _ distinct)] at distinct
      have apart : policy.arguments.rows.Pairwise fun left right => left.1 ≠ right.1 :=
        List.pairwise_map.mp policy.arguments.distinct
      apply apart.imp
      intro left right different
      rw [Function.onFun, List.disjoint_left]
      intro name first second
      obtain ⟨check, own, same⟩ := List.mem_map.mp first
      obtain ⟨twin, mine, equal⟩ := List.mem_map.mp second
      obtain ⟨property, -, shape⟩ := List.mem_map.mp own
      obtain ⟨other, -, figure⟩ := List.mem_map.mp mine
      rw [← shape] at same
      rw [← figure, ← same] at equal
      exact different (check_name_injective equal).1.symm
  rw [checks, List.map_cons, List.nodup_cons, List.map_append, List.nodup_append]
  refine ⟨?_, rules, List.nodup_singleton _, ?_⟩
  · intro member
    rcases List.mem_append.mp member with inside | last
    · obtain ⟨entry, property, same⟩ := names _ inside
      exact check_name_apart.1 same
    · have same : "mutation_classification" = "arguments.additionalProperties" :=
        List.mem_singleton.mp last
      exact absurd same (by decide)
  · intro name inside other last same
    obtain ⟨entry, property, shape⟩ := names _ inside
    rw [List.mem_map] at last
    obtain ⟨check, single, equal⟩ := last
    rw [List.mem_singleton.mp single] at equal
    rw [same, ← equal] at shape
    exact check_name_apart.2 shape

theorem unordered_unheld {check : Check} (listed : check ∈ checks contain policy arguments)
    (unordered : check.ordered = false) : check.holds = false := by
  rcases List.mem_cons.mp listed with first | rest
  · rw [first] at unordered
    cases unordered
  rcases List.mem_append.mp rest with inside | last
  · obtain ⟨entry, -, own⟩ := List.mem_flatMap.mp inside
    obtain ⟨property, -, shape⟩ := List.mem_map.mp own
    rw [← shape] at unordered ⊢
    cases property with
    | minimum =>
        simp only [argumentCheck, Property.ordered, Property.holds] at unordered ⊢
        cases bound : entry.2.minimum with
        | none => simp [bound] at unordered
        | some low =>
            cases given : arguments.get entry.1 with
            | none => simp [bound, given] at unordered
            | some value =>
                cases measured : value.number? with
                | none => simp [measured]
                | some number =>
                    have apart : comparable low number = false := by
                      simpa [bound, given, measured] using unordered
                    simp [measured, unordered_fails apart]
    | maximum =>
        simp only [argumentCheck, Property.ordered, Property.holds] at unordered ⊢
        cases bound : entry.2.maximum with
        | none => simp [bound] at unordered
        | some high =>
            cases given : arguments.get entry.1 with
            | none => simp [bound, given] at unordered
            | some value =>
                cases measured : value.number? with
                | none => simp [measured]
                | some number =>
                    have apart : comparable number high = false := by
                      rw [comparable, Bool.and_comm]
                      simpa [bound, given, measured, comparable] using unordered
                    simp [measured, unordered_fails apart]
    | _ => cases unordered
  · rw [List.mem_singleton.mp last] at unordered
    cases unordered

end Names

/-- The decision is exact when no bound is compared with a NaN, and neither is a
NaN bound with a value, before another demand of the policy is violated. -/
theorem typed_decision_exact_iff {contain : String → Except String FileTree.Path}
    {library : Library} {verify : Arguments → String → PolicyDecision}
    {policies : ToolPolicyRegistry} {policy : ToolPolicy} {arguments : Arguments}
    (found : policies.find? policy.toolName = some policy)
    (plain : ∀ smt ∈ policy.advancedSmt, smt = "") :
    Exact contain library verify policies policy arguments ↔ Ordered contain policy arguments := by
  have weaker : ∀ check ∈ checks contain policy arguments,
      check.holds = true → check.passes = true := by
    intro check _ held
    rw [Check.passes, held, Bool.true_or]
  have same := same_first_iff (@names_distinct contain policy arguments) weaker
  obtain ⟨decision, answered, allows, names⟩ :=
    @require_verdict contain library arguments verify policies policy found plain
  have exact_iff : Exact contain library verify policies policy arguments ↔
      firstRejected (checks contain policy arguments) = firstViolated contain policy arguments := by
    constructor
    · intro decides
      obtain ⟨other, told, complies, violated⟩ := decides
      rw [answered] at told
      obtain rfl := Except.ok.inj told
      cases allowed : decision.allowed with
      | true =>
          rw [allows.mp allowed, complies_iff.mp (complies.mp allowed)]
      | false =>
          rw [← names allowed]
          exact violated allowed
    · intro agree
      refine ⟨decision, answered, ?_, ?_⟩
      · rw [allows, complies_iff, agree]
      · intro rejected
        rw [names rejected, agree]
  rw [exact_iff]
  apply same.trans
  constructor
  · intro lets before check later shape held
    by_contra unordered
    rw [Bool.not_eq_true] at unordered
    have listed : check ∈ checks contain policy arguments := by
      rw [shape]
      exact List.mem_append_cons_self
    have fails := unordered_unheld listed unordered
    have passes : check.passes = true := by
      rw [Check.passes, unordered, Bool.not_false, Bool.or_true]
    have holds := lets before check later shape held passes
    rw [fails] at holds
    cases holds
  · intro ordered before check later shape held passes
    have compared := ordered before check later shape held
    rw [Check.passes, compared, Bool.not_true, Bool.or_false] at passes
    exact passes

section Samples

def paymentPolicy : ToolPolicy where
  toolName := "PAY"
  mutating := true
  arguments := ⟨[("amount", { kind := .number, minimum := some (.finite 0)
                              maximum := some (.finite 100), ordered := by decide })], by decide⟩

def paymentPolicies : ToolPolicyRegistry := ⟨[paymentPolicy], by decide⟩

def payment (amount : PyFloat) : Arguments := ⟨[("amount", .float amount)], by simp⟩

def containsNothing (_text : String) : Except String FileTree.Path := .error "outside"

theorem typed_decision_exact_sample :
    Exact containsNothing sampleLibrary sampleVerify paymentPolicies paymentPolicy
        (payment (.finite 5)) ∧
      Exact containsNothing sampleLibrary sampleVerify paymentPolicies paymentPolicy
        (payment (.infinite false)) := by
  have compared (amount : PyFloat)
      (all : (checks containsNothing paymentPolicy (payment amount)).all Check.ordered = true) :
      Ordered containsNothing paymentPolicy (payment amount) := by
    intro before check later shape _
    apply List.all_eq_true.mp all
    rw [shape]
    exact List.mem_append_cons_self
  have plain : ∀ smt ∈ paymentPolicy.advancedSmt, smt = "" :=
    fun _ impossible => absurd impossible (Option.not_mem_none _)
  constructor
  · exact (typed_decision_exact_iff rfl plain).mpr (compared _ (by decide))
  · exact (typed_decision_exact_iff rfl plain).mpr (compared _ (by decide))

/-- A payment of NaN is allowed. -/
theorem nan_slips_through :
    (paymentPolicies.require sampleLibrary (asked containsNothing) sampleVerify "PAY"
        (payment .nan) true).map PolicyDecision.allowed = .ok true ∧
      ¬Complies containsNothing paymentPolicy (payment .nan) ∧
      ¬Exact containsNothing sampleLibrary sampleVerify paymentPolicies paymentPolicy
        (payment .nan) := by
  have allowed : (paymentPolicies.require sampleLibrary (asked containsNothing) sampleVerify "PAY"
      (payment .nan) true).map PolicyDecision.allowed = .ok true := by decide +kernel
  have violates : ¬Complies containsNothing paymentPolicy (payment .nan) := by
    intro complies
    have fits := complies.fits _ (List.mem_singleton_self _) (.float .nan) rfl
    obtain ⟨number, measured, above⟩ := fits.above _ rfl
    rw [← Option.some.inj measured] at above
    cases above
  refine ⟨allowed, violates, ?_⟩
  intro decides
  obtain ⟨decision, told, complies, -⟩ := decides
  have named : paymentPolicy.toolName = "PAY" := rfl
  rw [named] at told
  rw [told] at allowed
  exact violates (complies.mp (Except.ok.inj allowed))

end Samples

end SagaMind.PolicyDecisions
