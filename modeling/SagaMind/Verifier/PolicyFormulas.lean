import SagaMind.Foundation.OrderConstraints
import SagaMind.Verifier.Z3Prover
import Mathlib.Algebra.Order.Field.Basic
import Mathlib.Algebra.Order.Field.Rat

/-!
# Policies of comparisons

The policies that are built with `and`, `or`, `not` and `=>` from comparisons
`(op field atom)`, their truth under an assignment, and the ways in which one can
come true or false: lists of order constraints.
-/

namespace SagaMind.Verifier

open OrderConstraints

set_option autoImplicit false

def IsToken (text : List Char) : Prop :=
  text ≠ [] ∧ ∀ c ∈ text, Contracts.isSpace c = false ∧ c ≠ '(' ∧ c ≠ ')'

theorem is_token_of {text : List Char} (some : text ≠ [])
    (plain : (text.all fun c => !Contracts.isSpace c && c ≠ '(' && c ≠ ')') = true) :
    IsToken text := by
  refine ⟨some, ?_⟩
  intro c member
  have each := List.all_eq_true.mp plain c member
  simp only [Bool.and_eq_true, Bool.not_eq_true', decide_eq_true_eq] at each
  exact ⟨each.1.1, each.1.2, each.2⟩

structure Symbol where
  name : String
  token : IsToken name.toList
  plain : (unsigned name.toList).head?.any isDigit = false

/-- `whole`, or `whole.fraction` if there is a fraction. -/
structure Numeral where
  negative : Bool
  whole : List (Fin 10)
  fraction : List (Fin 10)
  some : whole ≠ []

namespace Numeral

def digits (digits : List (Fin 10)) : List Char :=
  digits.map fun digit : Fin 10 => Nat.digitChar digit.val

def chars (numeral : Numeral) : List Char :=
  (if numeral.negative then ['-'] else []) ++ digits numeral.whole ++
    if numeral.fraction = [] then [] else '.' :: digits numeral.fraction

def decimal (digits : List (Fin 10)) : Nat :=
  digits.foldl (fun value (digit : Fin 10) => 10 * value + digit.val) 0

def value (numeral : Numeral) : ℚ :=
  (if numeral.negative then -1 else 1) *
    (decimal (numeral.whole ++ numeral.fraction) / 10 ^ numeral.fraction.length)

end Numeral

inductive Atom where
  | numeral (numeral : Numeral)
  | argument (symbol : Symbol)

def Atom.text : Atom → String
  | .numeral number => String.ofList number.chars
  | .argument symbol => symbol.name

/-- `(op field atom)`. -/
structure Comparison where
  operator : Operator
  field : Symbol
  atom : Atom

inductive Policy where
  | comparison (comparison : Comparison)
  | and (policies : List Policy)
  | or (policies : List Policy)
  | not (policy : Policy)
  | implies (premises : List Policy) (conclusion : Policy)

theorem Policy.induction {motive : Policy → Prop}
    (comparison : ∀ comparison, motive (.comparison comparison))
    (and : ∀ policies, (∀ item ∈ policies, motive item) → motive (.and policies))
    (or : ∀ policies, (∀ item ∈ policies, motive item) → motive (.or policies))
    (not : ∀ policy, motive policy → motive (.not policy))
    (implies : ∀ premises conclusion, (∀ item ∈ premises, motive item) → motive conclusion →
      motive (.implies premises conclusion)) :
    ∀ policy, motive policy := by
  apply @Policy.rec motive fun policies => ∀ item ∈ policies, motive item
  · exact comparison
  · exact and
  · exact or
  · exact not
  · exact implies
  · exact nofun
  · intro head tail here later item member
    rcases List.mem_cons.mp member with rfl | other
    · exact here
    · exact later item other

section Truth

def Operator.holds : Operator → ℚ → ℚ → Bool
  | .le, left, right => decide (left ≤ right)
  | .lt, left, right => decide (left < right)
  | .ge, left, right => decide (right ≤ left)
  | .gt, left, right => decide (right < left)
  | .eq, left, right => decide (left = right)

def Atom.term : Atom → Term String ℚ
  | .numeral number => .value number.value
  | .argument symbol => .name symbol.name

def Comparison.holds (assign : String → ℚ) (comparison : Comparison) : Bool :=
  comparison.operator.holds (assign comparison.field.name) (comparison.atom.term.at assign)

mutual

def Policy.holds (assign : String → ℚ) : Policy → Bool
  | .comparison basic => basic.holds assign
  | .and policies => Policy.allHold assign policies
  | .or policies => Policy.anyHolds assign policies
  | .not policy => !policy.holds assign
  | .implies premises conclusion => !Policy.allHold assign premises || conclusion.holds assign

def Policy.allHold (assign : String → ℚ) : List Policy → Bool
  | [] => true
  | head :: tail => head.holds assign && Policy.allHold assign tail

def Policy.anyHolds (assign : String → ℚ) : List Policy → Bool
  | [] => false
  | head :: tail => head.holds assign || Policy.anyHolds assign tail

end

end Truth

section Contents

mutual

def Policy.comparisons : Policy → List Comparison
  | .comparison basic => [basic]
  | .and policies => Policy.listed policies
  | .or policies => Policy.listed policies
  | .not policy => policy.comparisons
  | .implies premises conclusion => Policy.listed premises ++ conclusion.comparisons

def Policy.listed : List Policy → List Comparison
  | [] => []
  | head :: tail => head.comparisons ++ Policy.listed tail

end

def Atom.names : Atom → List String
  | .numeral _ => []
  | .argument symbol => [symbol.name]

def Comparison.names (comparison : Comparison) : List String :=
  comparison.field.name :: comparison.atom.names

theorem mem_listed_policy {basic : Comparison} {policies : List Policy} :
    basic ∈ Policy.listed policies ↔ ∃ item ∈ policies, basic ∈ item.comparisons := by
  induction policies with
  | nil => simp [Policy.listed]
  | cons head tail ih => rw [Policy.listed, List.mem_append, ih, List.exists_mem_cons_iff]

variable {assign assign' : String → ℚ}

theorem comparison_congr {basic : Comparison}
    (same : ∀ name ∈ basic.names, assign name = assign' name) :
    basic.holds assign = basic.holds assign' := by
  have field : assign basic.field.name = assign' basic.field.name := same _ List.mem_cons_self
  have atom : basic.atom.term.at assign = basic.atom.term.at assign' := by
    cases limit : basic.atom with
    | numeral number => rfl
    | argument symbol =>
        refine same symbol.name (List.mem_cons_of_mem _ ?_)
        rw [limit]
        exact List.mem_singleton_self _
  rw [Comparison.holds, Comparison.holds, field, atom]

theorem all_hold_congr {policies : List Policy}
    (each : ∀ item ∈ policies, item.holds assign = item.holds assign') :
    Policy.allHold assign policies = Policy.allHold assign' policies := by
  induction policies with
  | nil => rfl
  | cons head tail ih =>
      rw [List.forall_mem_cons] at each
      rw [Policy.allHold, Policy.allHold, each.1, ih each.2]

theorem any_holds_congr {policies : List Policy}
    (each : ∀ item ∈ policies, item.holds assign = item.holds assign') :
    Policy.anyHolds assign policies = Policy.anyHolds assign' policies := by
  induction policies with
  | nil => rfl
  | cons head tail ih =>
      rw [List.forall_mem_cons] at each
      rw [Policy.anyHolds, Policy.anyHolds, each.1, ih each.2]

theorem policy_congr {policy : Policy}
    (same : ∀ basic ∈ policy.comparisons, ∀ name ∈ basic.names, assign name = assign' name) :
    policy.holds assign = policy.holds assign' := by
  induction policy using Policy.induction with
  | comparison basic => exact comparison_congr (same basic (List.mem_singleton_self basic))
  | and policies each =>
      exact all_hold_congr fun item member => each item member fun basic listed =>
        same basic (mem_listed_policy.mpr ⟨item, member, listed⟩)
  | or policies each =>
      exact any_holds_congr fun item member => each item member fun basic listed =>
        same basic (mem_listed_policy.mpr ⟨item, member, listed⟩)
  | not policy each => rw [Policy.holds, Policy.holds, each same]
  | implies premises conclusion each last =>
      rw [Policy.comparisons, List.forall_mem_append] at same
      have before : Policy.allHold assign premises = Policy.allHold assign' premises :=
        all_hold_congr fun item member => each item member fun basic listed =>
          same.1 basic (mem_listed_policy.mpr ⟨item, member, listed⟩)
      rw [Policy.holds, Policy.holds, before, last same.2]

end Contents

section Branches

abbrev Branch : Type := List (Bound String ℚ)

def Operator.bounds (left right : Term String ℚ) : Operator → Branch
  | .le => [⟨left, right, false⟩]
  | .lt => [⟨left, right, true⟩]
  | .ge => [⟨right, left, false⟩]
  | .gt => [⟨right, left, true⟩]
  | .eq => [⟨left, right, false⟩, ⟨right, left, false⟩]

def Operator.ways (left right : Term String ℚ) : Operator → Bool → List Branch
  | operator, true => [operator.bounds left right]
  | .le, false => [[⟨right, left, true⟩]]
  | .lt, false => [[⟨right, left, false⟩]]
  | .ge, false => [[⟨left, right, true⟩]]
  | .gt, false => [[⟨left, right, false⟩]]
  | .eq, false => [[⟨left, right, true⟩], [⟨right, left, true⟩]]

def both (left right : List Branch) : List Branch :=
  left.flatMap fun branch => right.map fun other => branch ++ other

mutual

def Policy.branches : Policy → Bool → List Branch
  | .comparison basic, positive =>
      basic.operator.ways (.name basic.field.name) basic.atom.term positive
  | .and policies, true => Policy.allBranches policies true
  | .and policies, false => Policy.anyBranches policies false
  | .or policies, true => Policy.anyBranches policies true
  | .or policies, false => Policy.allBranches policies false
  | .not policy, positive => policy.branches !positive
  | .implies premises conclusion, true =>
      Policy.anyBranches premises false ++ conclusion.branches true
  | .implies premises conclusion, false =>
      both (Policy.allBranches premises true) (conclusion.branches false)

def Policy.allBranches : List Policy → Bool → List Branch
  | [], _ => [[]]
  | head :: tail, positive => both (head.branches positive) (Policy.allBranches tail positive)

def Policy.anyBranches : List Policy → Bool → List Branch
  | [], _ => []
  | head :: tail, positive => head.branches positive ++ Policy.anyBranches tail positive

end

def Meets (assign : String → ℚ) (branches : List Branch) : Prop :=
  ∃ branch ∈ branches, ∀ bound ∈ branch, bound.Holds assign

variable {assign : String → ℚ}

theorem meets_append {left right : List Branch} :
    Meets assign (left ++ right) ↔ Meets assign left ∨ Meets assign right := by
  simp only [Meets, List.mem_append, or_and_right, exists_or]

theorem meets_both {left right : List Branch} :
    Meets assign (both left right) ↔ Meets assign left ∧ Meets assign right := by
  constructor
  · rintro ⟨branch, member, hold⟩
    obtain ⟨first, firstMember, later⟩ := List.mem_flatMap.mp member
    obtain ⟨second, secondMember, rfl⟩ := List.mem_map.mp later
    rw [List.forall_mem_append] at hold
    exact ⟨⟨first, firstMember, hold.1⟩, ⟨second, secondMember, hold.2⟩⟩
  · rintro ⟨⟨first, firstMember, firstHold⟩, ⟨second, secondMember, secondHold⟩⟩
    refine ⟨first ++ second, List.mem_flatMap.mpr ⟨first, firstMember, ?_⟩, ?_⟩
    · exact List.mem_map_of_mem secondMember
    · exact List.forall_mem_append.mpr ⟨firstHold, secondHold⟩

theorem bounds_hold_iff (left right : Term String ℚ) (operator : Operator) :
    (∀ bound ∈ operator.bounds left right, bound.Holds assign) ↔
      operator.holds (left.at assign) (right.at assign) = true := by
  have equal : left.at assign = right.at assign ↔
      left.at assign ≤ right.at assign ∧ right.at assign ≤ left.at assign := le_antisymm_iff
  cases operator <;>
    simp only [Operator.bounds, Operator.holds, Bound.Holds, Below, equal, List.mem_cons,
      List.not_mem_nil, or_false, forall_eq, forall_eq_or_imp, decide_eq_true_eq, if_true,
      Bool.false_eq_true, if_false]

theorem meets_ways (left right : Term String ℚ) (operator : Operator) (positive : Bool) :
    Meets assign (operator.ways left right positive) ↔
      operator.holds (left.at assign) (right.at assign) = positive := by
  cases positive with
  | true =>
      rw [← bounds_hold_iff, Operator.ways, Meets]
      simp only [List.mem_singleton, exists_eq_left]
  | false =>
      cases operator with
      | eq =>
          simp only [Operator.ways, Operator.holds, Meets, Bound.Holds, Below, List.mem_cons,
            List.not_mem_nil, or_false, exists_eq_left, exists_eq_or_imp, forall_eq,
            decide_eq_false_iff_not, if_true]
          exact lt_or_lt_iff_ne
      | _ =>
          simp only [Operator.ways, Operator.holds, Meets, Bound.Holds, Below, List.mem_cons,
            List.not_mem_nil, or_false, exists_eq_left, forall_eq, decide_eq_false_iff_not, not_le,
            not_lt, if_true, Bool.false_eq_true, if_false]

section Lists

variable {policies : List Policy} {positive : Bool}

theorem all_hold_iff : Policy.allHold assign policies = true ↔
    ∀ item ∈ policies, item.holds assign = true := by
  induction policies with
  | nil => simp [Policy.allHold]
  | cons head tail ih => rw [Policy.allHold, Bool.and_eq_true, ih, List.forall_mem_cons]

theorem any_holds_iff : Policy.anyHolds assign policies = true ↔
    ∃ item ∈ policies, item.holds assign = true := by
  induction policies with
  | nil => simp [Policy.anyHolds]
  | cons head tail ih => rw [Policy.anyHolds, Bool.or_eq_true, ih, List.exists_mem_cons_iff]

theorem meets_all_branches
    (each : ∀ item ∈ policies, Meets assign (item.branches positive) ↔ item.holds assign = positive) :
    Meets assign (Policy.allBranches policies positive) ↔
      ∀ item ∈ policies, item.holds assign = positive := by
  induction policies with
  | nil => simp [Policy.allBranches, Meets]
  | cons head tail ih =>
      rw [List.forall_mem_cons] at each
      rw [Policy.allBranches, meets_both, each.1, ih each.2, List.forall_mem_cons]

theorem meets_any_branches
    (each : ∀ item ∈ policies, Meets assign (item.branches positive) ↔ item.holds assign = positive) :
    Meets assign (Policy.anyBranches policies positive) ↔
      ∃ item ∈ policies, item.holds assign = positive := by
  induction policies with
  | nil => simp [Policy.anyBranches, Meets]
  | cons head tail ih =>
      rw [List.forall_mem_cons] at each
      rw [Policy.anyBranches, meets_append, each.1, ih each.2, List.exists_mem_cons_iff]

end Lists

/-- A policy is true, or false, exactly where one of its branches holds. -/
theorem meets_branches (policy : Policy) (positive : Bool) :
    Meets assign (policy.branches positive) ↔ policy.holds assign = positive := by
  induction policy using Policy.induction generalizing positive with
  | comparison basic => exact meets_ways _ _ _ _
  | and policies each =>
      cases positive with
      | true =>
          rw [Policy.branches, meets_all_branches fun item member => each item member true,
            Policy.holds, all_hold_iff]
      | false =>
          rw [Policy.branches, meets_any_branches fun item member => each item member false,
            Policy.holds, ← Bool.not_eq_true, all_hold_iff]
          simp
  | or policies each =>
      cases positive with
      | true =>
          rw [Policy.branches, meets_any_branches fun item member => each item member true,
            Policy.holds, any_holds_iff]
      | false =>
          rw [Policy.branches, meets_all_branches fun item member => each item member false,
            Policy.holds, ← Bool.not_eq_true, any_holds_iff]
          simp
  | not policy each =>
      rw [Policy.branches, each, Policy.holds]
      cases positive <;> simp
  | implies premises conclusion each last =>
      cases positive with
      | true =>
          rw [Policy.branches, meets_append, last,
            meets_any_branches fun item member => each item member false, Policy.holds,
            Bool.or_eq_true, Bool.not_eq_true', ← Bool.not_eq_true, all_hold_iff]
          simp
      | false =>
          rw [Policy.branches, meets_both, last,
            meets_all_branches fun item member => each item member true, Policy.holds,
            Bool.or_eq_false_iff, Bool.not_eq_false', all_hold_iff]

end Branches

end SagaMind.Verifier
