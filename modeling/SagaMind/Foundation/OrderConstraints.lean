import Mathlib.Data.Finset.Prod
import Mathlib.Data.Fintype.Basic
import Mathlib.Order.CountableDenseLinearOrder

/-!
# Order constraints

Finitely many bounds `low ≤ high` or `low < high` between names and values of a
dense linear order without endpoints. They can be met together unless a chain of
them, and of comparisons that hold between values, leads from a term strictly
back to itself.
-/

namespace OrderConstraints

set_option autoImplicit false

inductive Term (Name Value : Type*) where
  | name (name : Name)
  | value (value : Value)
  deriving DecidableEq

/-- `low ≤ high`, or `low < high` when it is strict. -/
structure Bound (Name Value : Type*) where
  low : Term Name Value
  high : Term Name Value
  strict : Bool
  deriving DecidableEq

section Satisfaction

variable {Name Value : Type*}

def Term.at (assign : Name → Value) : Term Name Value → Value
  | .name known => assign known
  | .value fixed => fixed

variable [LinearOrder Value]

def Below (strict : Bool) (low high : Value) : Prop := if strict then low < high else low ≤ high

instance (strict : Bool) (low high : Value) : Decidable (Below strict low high) := by
  unfold Below
  infer_instance

theorem below_trans {strict strict' : Bool} {low middle high : Value}
    (first : Below strict low middle) (second : Below strict' middle high) :
    Below (strict || strict') low high := by
  cases strict with
  | true =>
      cases strict' with
      | true => exact lt_trans first second
      | false => exact lt_of_lt_of_le first second
  | false =>
      cases strict' with
      | true => exact lt_of_le_of_lt first second
      | false => exact le_trans first second

def Bound.Holds (assign : Name → Value) (bound : Bound Name Value) : Prop :=
  Below bound.strict (bound.low.at assign) (bound.high.at assign)

end Satisfaction

section Chains

variable {Name Value : Type*} [LinearOrder Value]

/-- What follows by transitivity from the bounds and from the order of the values. -/
inductive Chain (bounds : List (Bound Name Value)) :
    Term Name Value → Term Name Value → Bool → Prop
  | bound {bound : Bound Name Value} (member : bound ∈ bounds) :
      Chain bounds bound.low bound.high bound.strict
  | values {low high : Value} (less : low < high) :
      Chain bounds (.value low) (.value high) true
  | trans {low middle high : Term Name Value} {strict strict' : Bool}
      (first : Chain bounds low middle strict) (second : Chain bounds middle high strict') :
      Chain bounds low high (strict || strict')

/-- A chain leads strictly back to where it starts. -/
def Contradictory (bounds : List (Bound Name Value)) : Prop :=
  ∃ term, Chain bounds term term true

variable {bounds : List (Bound Name Value)}

theorem chain_holds {assign : Name → Value} (hold : ∀ bound ∈ bounds, bound.Holds assign)
    {low high : Term Name Value} {strict : Bool} (chain : Chain bounds low high strict) :
    Below strict (low.at assign) (high.at assign) := by
  induction chain with
  | bound member => exact hold _ member
  | @values low high less => exact show Below true low high from less
  | trans first second ihFirst ihSecond => exact below_trans ihFirst ihSecond

theorem chain_values (consistent : ¬ Contradictory bounds) {low high : Value} {strict : Bool}
    (chain : Chain bounds (.value low) (.value high) strict) : Below strict low high := by
  by_contra wrong
  cases strict with
  | true =>
      rcases eq_or_lt_of_le (not_lt.mp wrong) with rfl | below
      · exact consistent ⟨_, chain⟩
      · exact consistent ⟨_, .trans chain (.values below)⟩
  | false => exact consistent ⟨_, .trans chain (.values (not_le.mp wrong))⟩

end Chains

section Room

variable {Value : Type*} [LinearOrder Value] [DenselyOrdered Value] [NoMinOrder Value]
  [NoMaxOrder Value] [Nonempty Value]

/-- A value fits between finitely many lower and upper bounds that are compatible. -/
theorem exists_room (lower upper : Finset (Value × Bool))
    (compatible : ∀ low ∈ lower, ∀ high ∈ upper, Below (low.2 || high.2) low.1 high.1) :
    ∃ value, (∀ low ∈ lower, Below low.2 low.1 value) ∧
      ∀ high ∈ upper, Below high.2 value high.1 := by
  by_cases apart : ∀ low ∈ lower.image Prod.fst, ∀ high ∈ upper.image Prod.fst, low < high
  · obtain ⟨value, above, below⟩ := Order.exists_between_finsets _ _ apart
    have weaken : ∀ {strict : Bool} {low high : Value}, low < high → Below strict low high := by
      intro strict low high less
      cases strict with
      | true => exact less
      | false => exact less.le
    exact ⟨value, fun low member => weaken (above _ (Finset.mem_image_of_mem _ member)),
      fun high member => weaken (below _ (Finset.mem_image_of_mem _ member))⟩
  · push Not at apart
    obtain ⟨_, lowImage, _, highImage, meet⟩ := apart
    obtain ⟨low, lowMember, rfl⟩ := Finset.mem_image.mp lowImage
    obtain ⟨high, highMember, rfl⟩ := Finset.mem_image.mp highImage
    clear lowImage highImage
    -- the two bounds meet in one value, which is then the only choice
    have touching := compatible low lowMember high highMember
    obtain ⟨value, lowStrict⟩ := low
    obtain ⟨value', highStrict⟩ := high
    cases lowStrict with
    | true => exact absurd meet (not_le.mpr touching)
    | false =>
        cases highStrict with
        | true => exact absurd meet (not_le.mpr touching)
        | false =>
            obtain rfl : value = value' := le_antisymm touching meet
            refine ⟨value, ?_, ?_⟩
            · intro low member
              have below := compatible low member _ highMember
              rwa [Bool.or_false] at below
            · intro high member
              have below := compatible _ lowMember high member
              rwa [Bool.false_or] at below

end Room

section Satisfiability

variable {Name Value : Type*} [LinearOrder Value] {bounds : List (Bound Name Value)}

def terms (bounds : List (Bound Name Value)) : List (Term Name Value) :=
  bounds.flatMap fun bound => [bound.low, bound.high]

def Settled (names : List Name) : Term Name Value → Prop
  | .name name => name ∈ names
  | .value _ => True

omit [LinearOrder Value] in
theorem settled_cons {name : Name} {names : List Name} {term : Term Name Value}
    (settled : Settled (name :: names) term) : term = .name name ∨ Settled names term := by
  cases term with
  | value fixed => exact .inr trivial
  | name other =>
      rcases List.mem_cons.mp settled with rfl | old
      · exact .inl rfl
      · exact .inr old

omit [LinearOrder Value] in
open Classical in
theorem at_update {names : List Name} {name : Name} (new : name ∉ names)
    {term : Term Name Value} (settled : Settled names term) (assign : Name → Value)
    (value : Value) : term.at (Function.update assign name value) = term.at assign := by
  cases term with
  | value fixed => rfl
  | name other =>
      have different : other ≠ name := fun equal => new (equal ▸ settled)
      rw [Term.at, Term.at, Function.update_of_ne different]

/-- The assignment is right about every chain between settled terms. -/
def Agrees (bounds : List (Bound Name Value)) (names : List Name) (assign : Name → Value) : Prop :=
  ∀ low ∈ terms bounds, ∀ high ∈ terms bounds, Settled names low → Settled names high →
    ∀ strict, Chain bounds low high strict → Below strict (low.at assign) (high.at assign)

theorem agrees_nil (consistent : ¬ Contradictory bounds) (assign : Name → Value) :
    Agrees bounds [] assign := by
  intro low _ high _ lowSettled highSettled strict chain
  cases low with
  | name name => cases lowSettled
  | value low =>
      cases high with
      | name name => cases highSettled
      | value high => exact chain_values consistent chain

open Classical in
noncomputable def gathered (bounds : List (Bound Name Value)) (names : List Name)
    (assign : Name → Value) (related : Term Name Value → Bool → Prop) : Finset (Value × Bool) :=
  (((terms bounds).toFinset ×ˢ (Finset.univ : Finset Bool)).filter fun entry =>
    Settled names entry.1 ∧ related entry.1 entry.2).image fun entry =>
      (entry.1.at assign, entry.2)

theorem mem_gathered {names : List Name} {assign : Name → Value}
    {related : Term Name Value → Bool → Prop} {entry : Value × Bool} :
    entry ∈ gathered bounds names assign related ↔
      ∃ term ∈ terms bounds, Settled names term ∧ related term entry.2 ∧
        term.at assign = entry.1 := by
  obtain ⟨value, strict⟩ := entry
  simp only [gathered, Finset.mem_image, Finset.mem_filter, Finset.mem_product, List.mem_toFinset,
    Finset.mem_univ, and_true, Prod.exists, Prod.mk.injEq]
  constructor
  · rintro ⟨term, flag, ⟨member, settled, picked⟩, equal, rfl⟩
    exact ⟨term, member, settled, picked, equal⟩
  · rintro ⟨term, member, settled, picked, equal⟩
    exact ⟨term, strict, ⟨member, settled, picked⟩, equal, rfl⟩

variable [DenselyOrdered Value] [NoMinOrder Value] [NoMaxOrder Value] [Nonempty Value]

open Classical in
theorem agrees_cons (consistent : ¬ Contradictory bounds) {names : List Name}
    {assign : Name → Value} (agrees : Agrees bounds names assign) {name : Name}
    (new : name ∉ names) :
    ∃ value, Agrees bounds (name :: names) (Function.update assign name value) := by
  have compatible : ∀ low ∈ gathered bounds names assign fun term => Chain bounds term (.name name),
      ∀ high ∈ gathered bounds names assign fun term => Chain bounds (.name name) term,
        Below (low.2 || high.2) low.1 high.1 := by
    intro low lowMember high highMember
    obtain ⟨left, leftMember, leftSettled, chainLeft, leftValue⟩ := mem_gathered.mp lowMember
    obtain ⟨right, rightMember, rightSettled, chainRight, rightValue⟩ := mem_gathered.mp highMember
    rw [← leftValue, ← rightValue]
    exact agrees left leftMember right rightMember leftSettled rightSettled _
      (.trans chainLeft chainRight)
  obtain ⟨value, above, below⟩ := exists_room _ _ compatible
  have here : (Term.name name).at (Function.update assign name value) = value := by
    rw [Term.at, Function.update_self]
  refine ⟨value, ?_⟩
  intro low lowMember high highMember lowSettled highSettled strict chain
  rcases settled_cons lowSettled with rfl | lowOld
  · rcases settled_cons highSettled with rfl | highOld
    · cases strict with
      | true => exact absurd ⟨_, chain⟩ consistent
      | false => exact le_refl _
    · rw [here, at_update new highOld]
      exact below (_, strict) (mem_gathered.mpr ⟨high, highMember, highOld, chain, rfl⟩)
  · rcases settled_cons highSettled with rfl | highOld
    · rw [here, at_update new lowOld]
      exact above (_, strict) (mem_gathered.mpr ⟨low, lowMember, lowOld, chain, rfl⟩)
    · rw [at_update new lowOld, at_update new highOld]
      exact agrees low lowMember high highMember lowOld highOld strict chain

theorem exists_agreeing (consistent : ¬ Contradictory bounds) (names : List Name) :
    ∃ assign, Agrees bounds names assign := by
  induction names with
  | nil => exact ⟨fun _ => Classical.arbitrary Value, agrees_nil consistent _⟩
  | cons name names ih =>
      obtain ⟨assign, agrees⟩ := ih
      by_cases known : name ∈ names
      · refine ⟨assign, ?_⟩
        have same : ∀ {term : Term Name Value}, Settled (name :: names) term → Settled names term := by
          intro term settled
          rcases settled_cons settled with rfl | old
          · exact known
          · exact old
        intro low lowMember high highMember lowSettled highSettled
        exact agrees low lowMember high highMember (same lowSettled) (same highSettled)
      · obtain ⟨value, extended⟩ := agrees_cons consistent agrees known
        exact ⟨_, extended⟩

/-- Bounds can be met together exactly when no chain contradicts itself. -/
theorem satisfiable_iff (bounds : List (Bound Name Value)) :
    (∃ assign, ∀ bound ∈ bounds, Bound.Holds assign bound) ↔ ¬ Contradictory bounds := by
  constructor
  · rintro ⟨assign, hold⟩ ⟨term, chain⟩
    exact lt_irrefl _ (chain_holds hold chain)
  · intro consistent
    let names := (terms bounds).flatMap fun term => match term with
      | .name name => [name]
      | .value _ => []
    have settled : ∀ term ∈ terms bounds, Settled names term := by
      intro term member
      cases term with
      | value fixed => trivial
      | name name => exact List.mem_flatMap.mpr ⟨_, member, List.mem_singleton_self name⟩
    obtain ⟨assign, agrees⟩ := exists_agreeing consistent names
    refine ⟨assign, ?_⟩
    intro bound member
    have low : bound.low ∈ terms bounds := List.mem_flatMap.mpr ⟨bound, member, by simp⟩
    have high : bound.high ∈ terms bounds := List.mem_flatMap.mpr ⟨bound, member, by simp⟩
    exact agrees _ low _ high (settled _ low) (settled _ high) _ (.bound member)

end Satisfiability

end OrderConstraints
